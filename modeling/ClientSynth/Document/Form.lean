/-! # Documents to be written

What a configuration or a report says, with the fields of a record in the order
in which they are to be written.  Each format writes a `Form` in its own way. -/
namespace ClientSynth
namespace Document

/-- A document to be written, or a part of one. -/
inductive Form where
  /-- A value that is not there. -/
  | absent
  | bool (value : Bool)
  | text (value : String)
  | list (items : List Form)
  /-- Named fields in order. -/
  | record (fields : List (String × Form))
  deriving Repr, BEq

namespace Form

/-- A list of texts. -/
def ofTexts (items : List String) : Form := .list (items.map Form.text)

/-- A text that may be missing. -/
def ofText? (s : Option String) : Form := (s.map Form.text).getD .absent

end Form
end Document
end ClientSynth
