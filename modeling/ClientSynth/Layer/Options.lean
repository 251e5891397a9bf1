/-! # Options

What the settings of a run add to its contracts. -/
namespace ClientSynth
namespace Layer

/-- What a run fills in where contracts say nothing. -/
structure Options where
  /-- Base address of interfaces that declare none. -/
  baseUrl : Option String
  /-- Token manager of wrap layers that name none. -/
  tokenManager : Option String
  deriving Repr, DecidableEq

end Layer
end ClientSynth
