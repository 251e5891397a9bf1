import ClientSynth.Generation.Emission
import ClientSynth.Proofs.Output

/-! # Emissions that stop

The files of an interface are rendered before the first is emitted, but then they
are emitted one by one, and one that is refused stops the emission where it
stands.  The files before it stay in the output. -/
namespace ClientSynth

open Contract

namespace Output

variable {o : Output} {u : GeneratedUnit} {rest : List GeneratedUnit}

theorem emitAll_nil (o : Output) : o.emitAll [] = ⟨o, none⟩ := rfl

theorem emitAll_free (h : o.contains u.fileName = false) :
    o.emitAll (u :: rest) = (o.adding u).emitAll rest := by
  rw [emitAll, emit_free h]

theorem emitAll_taken (h : o.contains u.fileName = true) :
    o.emitAll (u :: rest) = ⟨o, some (refusal u)⟩ := by
  rw [emitAll, emit_taken h]

/-- The output with several more files. -/
def addingAll (o : Output) (files : List GeneratedUnit) : Output := files.foldl adding o

theorem length_addingAll (o : Output) (files : List GeneratedUnit) :
    (o.addingAll files).units.length = files.length + o.units.length := by
  induction files generalizing o with
  | nil => exact (Nat.zero_add _).symm
  | cons u rest ih =>
      have hadding := (o.adding_perm u).length_eq
      rw [addingAll, List.foldl_cons, ← addingAll, ih, hadding, List.length_cons, List.length_cons]
      omega

/-- Files are accepted up to the first that is refused. -/
theorem emitAll_spec (o : Output) (files : List GeneratedUnit) :
    (o.emitAll files = ⟨o.addingAll files, none⟩) ∨
    ∃ accepted refused rest, files = accepted ++ refused :: rest ∧
      (o.addingAll accepted).contains refused.fileName = true ∧
      o.emitAll files = ⟨o.addingAll accepted, some (refusal refused)⟩ := by
  induction files generalizing o with
  | nil => exact Or.inl rfl
  | cons u rest ih =>
      cases hu : o.contains u.fileName with
      | true => exact Or.inr ⟨[], u, rest, rfl, hu, emitAll_taken hu⟩
      | false =>
          rw [emitAll_free hu]
          rcases ih (o.adding u) with hall | ⟨accepted, refused, more, rfl, hrefused, hstop⟩
          · exact Or.inl hall
          · exact Or.inr ⟨u :: accepted, refused, more, rfl, hrefused, hstop⟩

end Output

namespace Emitter

variable (e : Emitter) (o : Output) (i : Interface)

/-- The files of an interface, if all of its units can be rendered. -/
def files (e : Emitter) (i : Interface) : Except Failure (List GeneratedUnit) :=
  (Layer.interfaceUnits i e.options).value.mapM e.file

theorem value_emitInterface : (e.emitInterface o i).value =
    match e.files i with
    | .ok files => o.emitAll files
    | .error f => ⟨o, some f⟩ := rfl

variable {e o i} {f : Failure}

/-- An interface that fails leaves behind the files before the one that was refused; if
a unit could not be rendered, there are none. -/
theorem output_of_failure (h : (e.emitInterface o i).value.failure = some f) :
    (e.files i = .error f ∧ (e.emitInterface o i).value.output = o) ∨
    ∃ accepted refused rest, e.files i = .ok (accepted ++ refused :: rest) ∧
      (o.addingAll accepted).contains refused.fileName = true ∧
      (e.emitInterface o i).value.output = o.addingAll accepted := by
  rw [value_emitInterface] at h ⊢
  cases hfiles : e.files i with
  | error g =>
      rw [hfiles] at h
      exact Or.inl ⟨congrArg Except.error (Option.some.inj h), rfl⟩
  | ok files =>
      rw [hfiles] at h
      dsimp only at h ⊢
      rcases o.emitAll_spec files with hall | ⟨accepted, refused, rest, hsplit, hrefused, hstop⟩
      · rw [hall] at h
        cases h
      · exact Or.inr ⟨accepted, refused, rest, congrArg Except.ok hsplit, hrefused,
          congrArg Emitted.output hstop⟩

/-- **An interface that fails leaves the output as it was exactly if** one of its units
cannot be rendered or its very first file is refused. -/
theorem emitInterface_unchanged_iff (h : (e.emitInterface o i).value.failure = some f) :
    (e.emitInterface o i).value.output = o ↔
      e.files i = .error f ∨
      ∃ refused rest, e.files i = .ok (refused :: rest) ∧ o.contains refused.fileName = true := by
  constructor
  · intro hsame
    rcases output_of_failure h with
      ⟨hfiles, -⟩ | ⟨accepted, refused, rest, hfiles, hrefused, houtput⟩
    · exact Or.inl hfiles
    · -- Each accepted file makes the output longer, so none was accepted.
      have hlength := o.length_addingAll accepted
      rw [← houtput, hsame] at hlength
      obtain rfl : accepted = [] := List.length_eq_zero_iff.mp (by omega)
      exact Or.inr ⟨refused, rest, hfiles, hrefused⟩
  · rintro (hfiles | ⟨refused, rest, hfiles, htaken⟩)
    · rw [value_emitInterface, hfiles]
    · rw [value_emitInterface, hfiles]
      exact congrArg Emitted.output (Output.emitAll_taken htaken)

/-! ### A name that is taken -/

/-- An emitter whose files hold the names of their units. -/
def plainEmitter : Emitter :=
  ⟨⟨.custom, none, .blank, [(Template.unitTemplate, [.output ["unit_name"]])]⟩, ⟨none, none⟩, []⟩

/-- A client with one method, and a wrap layer if one is described. -/
def pingApi (name : String) (wrap : Option WrapDescriptor) : Interface :=
  ⟨name, "api.yaml", [],
    [⟨"PingAsync", .get, "/ping", .asyncVoid, [], none, false, false, name⟩],
    ⟨none, none, none, none, false, none⟩, wrap⟩

/-- A client with a wrap layer. -/
def userApi : Interface := pingApi "IUserApi" (some ⟨none, none⟩)

/-- A client whose file is called like that of the wrap layer. -/
def userWrapApi : Interface := pingApi "IIUserApiWrap" none

/-- The file of a unit that holds its name. -/
def plainFileOf (unit fileName : String) : GeneratedUnit := ⟨unit, fileName, unit⟩

theorem files_userApi : plainEmitter.files userApi =
    .ok [plainFileOf "UserApi" "user_api.rs", plainFileOf "IUserApi.Wrap" "i_user_api_wrap.rs",
      plainFileOf "IUserApi.WrapImpl" "i_user_api_wrap_impl.rs"] := by
  with_unfolding_all rfl

theorem files_userWrapApi : plainEmitter.files userWrapApi =
    .ok [plainFileOf "IUserApiWrap" "i_user_api_wrap.rs"] := by
  with_unfolding_all rfl

/-- The output with the file of `userWrapApi`. -/
def userWrapOutput : Output := ⟨[plainFileOf "IUserApiWrap" "i_user_api_wrap.rs"]⟩

theorem emitInterface_userApi : (plainEmitter.emitInterface userWrapOutput userApi).value =
    ⟨⟨[plainFileOf "IUserApiWrap" "i_user_api_wrap.rs", plainFileOf "UserApi" "user_api.rs"]⟩,
      some (Output.refusal (plainFileOf "IUserApi.Wrap" "i_user_api_wrap.rs"))⟩ := by
  rw [value_emitInterface, files_userApi]
  rfl

theorem userApi_changes_output :
    (plainEmitter.emitInterface userWrapOutput userApi).value.failure =
        some (Output.refusal (plainFileOf "IUserApi.Wrap" "i_user_api_wrap.rs")) ∧
      ¬ (plainEmitter.files userApi =
          .error (Output.refusal (plainFileOf "IUserApi.Wrap" "i_user_api_wrap.rs")) ∨
        ∃ refused rest, plainEmitter.files userApi = .ok (refused :: rest) ∧
          userWrapOutput.contains refused.fileName = true) := by
  have hfailure := congrArg Emitted.failure emitInterface_userApi
  refine ⟨hfailure, fun hunchanged => ?_⟩
  have hsame := (emitInterface_unchanged_iff hfailure).mpr hunchanged
  rw [emitInterface_userApi] at hsame
  exact absurd hsame (by decide)

/-- **Emitting an interface is not all or nothing.** -/
theorem emitInterface_not_atomic :
    ¬ ∀ (e : Emitter) (o : Output) (i : Interface),
      (e.emitInterface o i).value.failure ≠ none → (e.emitInterface o i).value.output = o := by
  intro hall
  have hsame := hall plainEmitter userWrapOutput userApi
    (by rw [emitInterface_userApi]; exact Option.some_ne_none _)
  rw [emitInterface_userApi] at hsame
  exact absurd hsame (by decide)

end Emitter
end ClientSynth
