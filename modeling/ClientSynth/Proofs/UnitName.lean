import ClientSynth.Code.Identifier
import ClientSynth.Layer
import ClientSynth.Proofs.Words

/-! # Names of the files of an interface

Snake case drops and adds nothing but separators: without its underscores, a
snake-case name is its letters and digits in lowercase.  So names that are made
from an interface's name in different ways are files of different names. -/
namespace ClientSynth
namespace Code.Identifier

open Text

/-- The letters of a file name, up to its ending. -/
def stemLetters (unit : String) : List Char := joinedLetters (letters unit.toList)

theorem letters_map_dot (cs : List Char) :
    letters (cs.map (fun c => if c = '.' then '_' else c)) = letters cs := by
  induction cs with
  | nil => rfl
  | cons c rest ih =>
      have hcons : ∀ d ds, letters (d :: ds) = letters [d] ++ letters ds :=
        fun d ds => letters_append [d] ds
      rw [List.map_cons, hcons, ih, hcons c]
      split
      · next hc =>
        have hdot : letters ['.'] = letters ['_'] := by decide
        rw [hc, hdot]
      · rfl

theorem joinedLetters_unitStem (unit : String) :
    joinedLetters (unitStem unit).toList = stemLetters unit := by
  rw [unitStem, snakeCase, String.toList_ofList, String.toList_ofList, joinedLetters_snakeChars,
    letters_map_dot, stemLetters]

/-- Units with different letters are files of different names. -/
theorem fileName_ne {unit other : String} (h : stemLetters unit ≠ stemLetters other) :
    fileName unit ≠ fileName other := by
  intro hsame
  have hstems : unitStem unit = unitStem other := by
    have hlists := congrArg String.toList hsame
    rw [fileName, fileName, String.toList_append, String.toList_append] at hlists
    exact String.toList_inj.mp (List.append_cancel_right hlists)
  rw [← joinedLetters_unitStem, ← joinedLetters_unitStem, hstems] at h
  exact h rfl

theorem stemLetters_append (name ending : String) :
    stemLetters (name ++ ending) = stemLetters name ++ stemLetters ending := by
  rw [stemLetters, String.toList_append, letters_append, joinedLetters_append]
  rfl

theorem eq_of_stripInterfaceMarker {name stripped : String}
    (h : Naming.stripInterfaceMarker name = some stripped) : name = "I" ++ stripped := by
  unfold Naming.stripInterfaceMarker at h
  split at h
  · next second rest hname =>
    split at h
    · cases h
      apply String.toList_inj.mp
      simp [hname]
    · cases h
  · cases h

/-- The implementation of an interface has fewer letters than the interface, or they
end in those of `Impl`. -/
theorem stemLetters_implementation (name : String) :
    (stemLetters (Naming.implementation name)).length < (stemLetters name).length ∨
      stemLetters (Naming.implementation name) = stemLetters name ++ stemLetters "Impl" := by
  cases hname : Naming.stripInterfaceMarker name with
  | none =>
      rw [Naming.implementation, hname]
      exact Or.inr (stemLetters_append name "Impl")
  | some stripped =>
      have hmarker : (stemLetters "I").length = 1 := by decide
      have hletters := congrArg (fun name => (stemLetters name).length)
        (eq_of_stripInterfaceMarker hname)
      rw [stemLetters_append, List.length_append, hmarker] at hletters
      rw [Naming.implementation, hname, Option.getD_some]
      omega

/-- The file of the implementation is not called like one whose name is that of the
interface with a longer ending. -/
theorem fileName_implementation_ne (name ending : String)
    (h : stemLetters "Impl" ≠ stemLetters ending) :
    fileName (Naming.implementation name) ≠ fileName (name ++ ending) := by
  refine fileName_ne (fun hsame => ?_)
  rw [stemLetters_append] at hsame
  rcases stemLetters_implementation name with hlt | himpl
  -- A marker was dropped: the one has fewer letters than the name, the other has more.
  · rw [hsame, List.length_append] at hlt
    omega
  · exact h (List.append_cancel_left (himpl.symm.trans hsame))

theorem fileName_append_ne (name ending other : String)
    (h : stemLetters ending ≠ stemLetters other) :
    fileName (name ++ ending) ≠ fileName (name ++ other) := by
  refine fileName_ne (fun hsame => h ?_)
  rw [stemLetters_append, stemLetters_append] at hsame
  exact List.append_cancel_left hsame

end Code.Identifier

open Code.Identifier in
/-- **The files of an interface have different names.** -/
theorem Layer.fileNames_nodup (i : Contract.Interface) (options : Layer.Options) :
    ((Layer.interfaceUnits i options).value.map (fun u => fileName u.name)).Nodup := by
  have hwrap := fileName_implementation_ne i.name ".Wrap" (by decide)
  have hwrapImpl := fileName_implementation_ne i.name ".WrapImpl" (by decide)
  have hlayers := fileName_append_ne i.name ".Wrap" ".WrapImpl" (by decide)
  unfold Layer.interfaceUnits Layer.wrapUnits
  split
  · exact List.pairwise_singleton _ _
  · exact List.pairwise_singleton _ _
  · have hnodup : [fileName (Naming.implementation i.name), fileName (i.name ++ ".Wrap"),
        fileName (i.name ++ ".WrapImpl")].Nodup := by
      simp [hwrap, hwrapImpl, hlayers]
    exact hnodup

end ClientSynth
