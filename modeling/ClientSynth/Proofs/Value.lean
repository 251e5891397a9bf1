import ClientSynth.Code
import ClientSynth.Contract.Type

/-! # Values of running code

What generated code computes with.  It looks into texts, lists and optional
values only; every other value is an `atom`, and what is done with it — showing
it, turning it into query pairs or JSON — is up to the `Runtime`, as are
percent-encoding and formatting. -/
namespace ClientSynth
namespace Code

open Contract

/-- Something added to a request. -/
inductive Addition where
  | header (name value : String)
  | body (content : String)
  deriving Repr, DecidableEq

/-- A value of running code. -/
inductive Value (Atom : Type) where
  | atom (a : Atom)
  | text (s : String)
  | flag (b : Bool)
  | absent
  | present (content : Value Atom)
  | list (items : List (Value Atom))
  /-- A query pair. -/
  | pair (key value : String)
  | ref (target : Value Atom)
  /-- The result of a call that went well. -/
  | good (content : Value Atom)
  /-- The result of a call that failed. -/
  | failed (error : String)
  /-- A request builder with what has been added to it. -/
  | builder (additions : List Addition)

/-- Why code stops. -/
inductive Halt where
  /-- An error that is returned. -/
  | raised (error : String)
  /-- The code has no meaning. -/
  | stuck
  deriving Repr, DecidableEq

/-- What comes of running code. -/
abbrev Outcome (α : Type) := Except Halt α

variable {Atom : Type}

/-- What an expression means: a value, or a function that another call applies. -/
inductive Meaning (Atom : Type) where
  | value (v : Value Atom)
  | function (f : Value Atom → Outcome (Value Atom))

/-- The value that is meant; a function is none. -/
def Meaning.value? : Meaning Atom → Outcome (Value Atom)
  | .value v => .ok v
  | .function _ => .error .stuck

namespace Value

/-- The value behind all references. -/
def peel : Value Atom → Value Atom
  | ref target => target.peel
  | v => v

@[simp] theorem peel_ref (v : Value Atom) : (ref v).peel = v.peel := rfl

@[simp] theorem peel_peel : ∀ v : Value Atom, v.peel.peel = v.peel
  | ref target => target.peel_peel
  | atom _ | text _ | flag _ | absent | present _ | list _ | pair _ _ | good _ | failed _
  | builder _ => rfl

/-- What an optional value holds: nothing, or its content.  The content of a
reference to an optional value is a reference to its content. -/
def option? : Value Atom → Option (Option (Value Atom))
  | absent => some none
  | present content => some (some content)
  | ref target => target.option?.map (Option.map ref)
  | _ => none

/-- The text of a text. -/
def text? : Value Atom → Option String
  | text s => some s
  | _ => none

/-- The items of a list; other values have none. -/
def items (v : Value Atom) : List (Value Atom) :=
  match v.peel with
  | list items => items
  | _ => []

end Value

/-! ### What generated code calls -/

/-- Functions that generated code calls and does not define. -/
structure Runtime (Atom : Type) where
  /-- Percent-encoding for the query. -/
  encode : String → String
  /-- The query pairs of a structured value. -/
  queryPairs : Value Atom → Except String (List (String × String))
  /-- The JSON form of a value. -/
  json : Value Atom → Except String String
  /-- The text of a value that is no text itself. -/
  display : Value Atom → String
  /-- A value in a date pattern. -/
  dated : String → Value Atom → Value Atom
  /-- A template with its holes filled. -/
  format : String → List (Value Atom) → String

namespace Runtime

variable (rt : Runtime Atom)

/-- The text of a value. -/
def textOf (v : Value Atom) : String :=
  match v.peel with
  | .text s => s
  | w => rt.display w

@[simp] theorem textOf_ref (v : Value Atom) : rt.textOf (.ref v) = rt.textOf v := rfl

@[simp] theorem textOf_text (s : String) : rt.textOf (.text s) = s := rfl

@[simp] theorem textOf_peel (v : Value Atom) : rt.textOf v.peel = rt.textOf v := by
  rw [textOf, Value.peel_peel, textOf]

theorem textOf_eq {v : Value Atom} {s : String} (h : v.peel = .text s) : rt.textOf v = s := by
  rw [← textOf_peel, h, textOf_text]

/-- The result of a call that may fail. -/
def result {α : Type} (wrap : α → Value Atom) : Except String α → Value Atom
  | .ok a => .good (wrap a)
  | .error e => .failed e

/-- A list of query pairs. -/
def pairList (pairs : List (String × String)) : Value Atom :=
  .list (pairs.map (fun p => .pair p.1 p.2))

theorem pairList_append (pairs more : List (String × String)) :
    (pairList (pairs ++ more) : Value Atom) =
      .list (pairs.map (fun p => .pair p.1 p.2) ++ more.map (fun p => .pair p.1 p.2)) := by
  rw [pairList, List.map_append]

/-- A call of a function.  The functions that only read their argument take a
reference to it. -/
def call (callee : String) (args : List (Meaning Atom)) : Outcome (Value Atom) :=
  match callee, args with
  | "Vec::new", [] => .ok (.list [])
  | "encode_query_value", [.value (.ref v)] =>
    match v.peel with
    | .text s => .ok (.text (rt.encode s))
    | _ => .error .stuck
  | "query_pairs", [.value (.ref v)] => .ok (result pairList (rt.queryPairs v.peel))
  | "serde_json::to_string", [.value (.ref v)] => .ok (result .text (rt.json v.peel))
  | _, _ => .error .stuck

/-- A call of a method, which looks through references to the value it is called
on. -/
def method (name : String) (receiver : Value Atom) (args : List (Meaning Atom)) :
    Outcome (Value Atom) :=
  match name, receiver.peel, args with
  | "to_string", v, [] => .ok (.text (rt.textOf v))
  | "is_empty", .text s, [] => .ok (.flag s.isEmpty)
  | "is_empty", .list items, [] => .ok (.flag items.isEmpty)
  | "format", v, [.value (.text pattern)] => .ok (rt.dated pattern v)
  | "iter", .list items, [] => .ok (.list (items.map .ref))
  | "flatten", .list items, [] =>
    match items.mapM Value.option? with
    | some contents => .ok (.list (contents.filterMap id))
    | none => .error .stuck
  | "map", .list items, [.function f] => (items.mapM f).map .list
  | "collect", .list items, [] => .ok (.list items)
  | "join", .list items, [.value (.text separator)] =>
    match items.mapM Value.text? with
    | some texts => .ok (.text (Text.joined separator texts))
    | none => .error .stuck
  | "header", .builder additions, [.value (.text key), .value (.text value)] =>
    .ok (.builder (additions ++ [.header key value]))
  | "body", .builder additions, [.value (.text content)] =>
    .ok (.builder (additions ++ [.body content]))
  | _, _, _ => .error .stuck

section Calls
variable {rt} {v : Value Atom} {s : String} {items : List (Value Atom)}

theorem call_encode (h : v.peel = .text s) :
    rt.call "encode_query_value" [.value (.ref v)] = .ok (.text (rt.encode s)) := by
  show (match v.peel with
    | .text s => .ok (.text (rt.encode s))
    | _ => .error .stuck : Outcome (Value Atom)) = _
  rw [h]

theorem call_queryPairs : rt.call "query_pairs" [.value (.ref v)] =
    .ok (result pairList (rt.queryPairs v.peel)) := rfl

theorem call_json : rt.call "serde_json::to_string" [.value (.ref v)] =
    .ok (result .text (rt.json v.peel)) := rfl

theorem method_peel (name : String) (args : List (Meaning Atom)) :
    rt.method name v.peel args = rt.method name v args := by
  unfold method
  rw [Value.peel_peel]

theorem method_toString : rt.method "to_string" v [] = .ok (.text (rt.textOf v)) := by
  rw [← textOf_peel]
  rfl

theorem method_isEmpty_text (h : v.peel = .text s) :
    rt.method "is_empty" v [] = .ok (.flag s.isEmpty) := by
  rw [← method_peel, h]
  rfl

theorem method_isEmpty_list (h : v.peel = .list items) :
    rt.method "is_empty" v [] = .ok (.flag items.isEmpty) := by
  rw [← method_peel, h]
  rfl

theorem method_format (pattern : String) :
    rt.method "format" v [.value (.text pattern)] = .ok (rt.dated pattern v.peel) := rfl

theorem method_iter (h : v.peel = .list items) :
    rt.method "iter" v [] = .ok (.list (items.map .ref)) := by
  rw [← method_peel, h]
  rfl

theorem method_flatten {contents : List (Option (Value Atom))}
    (h : items.mapM Value.option? = some contents) :
    rt.method "flatten" (.list items) [] = .ok (.list (contents.filterMap id)) := by
  show (match items.mapM Value.option? with
    | some contents => .ok (.list (contents.filterMap id))
    | none => .error .stuck : Outcome (Value Atom)) = _
  rw [h]

theorem method_map (f : Value Atom → Outcome (Value Atom)) :
    rt.method "map" (.list items) [.function f] = (items.mapM f).map .list := rfl

theorem method_collect : rt.method "collect" (.list items) [] = .ok (.list items) := rfl

theorem method_join {texts : List String} (h : items.mapM Value.text? = some texts) :
    rt.method "join" (.list items) [.value (.text s)] = .ok (.text (Text.joined s texts)) := by
  show (match items.mapM Value.text? with
    | some texts => .ok (.text (Text.joined s texts))
    | none => .error .stuck : Outcome (Value Atom)) = _
  rw [h]

theorem method_header {additions : List Addition} (key value : String) :
    rt.method "header" (.builder additions) [.value (.text key), .value (.text value)] =
      .ok (.builder (additions ++ [.header key value])) := rfl

theorem method_body {additions : List Addition} (content : String) :
    rt.method "body" (.builder additions) [.value (.text content)] =
      .ok (.builder (additions ++ [.body content])) := rfl

end Calls

end Runtime

/-- Functions as they behave on plain words and numbers: percent-encoding leaves the
words alone, and numbers are shown and written in JSON by their digits. -/
def plainRuntime : Runtime Nat where
  encode s := s
  queryPairs _ := .ok []
  json
    | .atom n => .ok (toString n)
    | _ => .error "unsupported"
  display
    | .atom n => toString n
    | _ => ""
  dated _ v := v
  format template _ := template

/-- A list after a call that adds to it. -/
def Value.grow (name : String) (args : List (Meaning Atom)) (v : Value Atom) :
    Outcome (Value Atom) :=
  match name, args, v with
  | "push", [.value item], .list items => .ok (.list (items ++ [item]))
  | "extend", [.value (.list more)], .list items => .ok (.list (items ++ more))
  | _, _, _ => .error .stuck

/-! ### Values of declared types -/

mutual

/-- `HasType t v`: `v` is a value of the declared type `t`. -/
inductive HasType : DeclaredType → Value Atom → Prop where
  | absent {t : DeclaredType} : t.nullable = true → HasType t .absent
  | present {t : DeclaredType} {v : Value Atom} :
      t.nullable = true → HasBase t v → HasType t (.present v)
  | value {t : DeclaredType} {v : Value Atom} : t.nullable = false → HasBase t v → HasType t v

/-- `HasBase t v`: `v` is a value of `t` without its `Option`. -/
inductive HasBase : DeclaredType → Value Atom → Prop where
  | text {t : DeclaredType} {s : String} : t.family = .text → HasBase t (.text s)
  | list {t element : DeclaredType} {items : List (Value Atom)} : t.family = .sequence →
      t.element = some element → (∀ v ∈ items, HasType element v) → HasBase t (.list items)
  | atom {t : DeclaredType} {a : Atom} : t.family ≠ .text → t.family ≠ .sequence →
      HasBase t (.atom a)
  /-- Values of borrowed types are references. -/
  | ref {t : DeclaredType} {v : Value Atom} : HasBase t v → HasBase t (.ref v)

end

/-- The value behind a nullable type; an absent one has none. -/
def Value.content? (t : DeclaredType) (v : Value Atom) : Option (Value Atom) :=
  match t.nullable, v with
  | false, v => some v
  | true, .present content => some content
  | true, _ => none

theorem HasType.content? {t : DeclaredType} {v : Value Atom} (h : HasType t v) :
    (t.nullable = true ∧ v = .absent ∧ v.content? t = none) ∨
    (t.nullable = true ∧ ∃ c, v = .present c ∧ v.content? t = some c ∧ HasBase t c) ∨
    (t.nullable = false ∧ v.content? t = some v ∧ HasBase t v) := by
  cases h with
  | absent hn => exact Or.inl ⟨hn, rfl, by simp [Value.content?, hn]⟩
  | present hn hbase =>
      exact Or.inr (Or.inl ⟨hn, _, rfl, by simp [Value.content?, hn], hbase⟩)
  | value hn hbase => exact Or.inr (Or.inr ⟨hn, by simp [Value.content?, hn], hbase⟩)

theorem HasBase.peel_eq_text : ∀ {t : DeclaredType} {v : Value Atom},
    HasBase t v → t.family = .text → ∃ s, v.peel = .text s
  | _, _, .text _, _ => ⟨_, rfl⟩
  | _, _, .list hfamily _ _, ht => absurd (hfamily.symm.trans ht) nofun
  | _, _, .atom hfamily _, ht => absurd ht hfamily
  | _, _, .ref h, ht => h.peel_eq_text ht

theorem HasBase.peel_eq_list : ∀ {t : DeclaredType} {v : Value Atom},
    HasBase t v → t.family = .sequence →
      ∃ element items, t.element = some element ∧ v.peel = .list items ∧
        ∀ w ∈ items, HasType element w
  | _, _, .text hfamily, ht => absurd (hfamily.symm.trans ht) nofun
  | _, _, .list _ helement hitems, _ => ⟨_, _, helement, rfl, hitems⟩
  | _, _, .atom _ hfamily, ht => absurd ht hfamily
  | _, _, .ref h, ht => h.peel_eq_list ht

end Code
end ClientSynth
