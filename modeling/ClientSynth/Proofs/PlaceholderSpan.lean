import ClientSynth.Proofs.ByteCut
import ClientSynth.Proofs.Placeholder

/-! # What the placeholders of a template cover

A placeholder stands in a template wherever a name in braces can be cut out of it.
`StandsIn` says so with the texts in front and behind, and the bytes that are covered are
those of these texts, so they begin and end between characters.  No two such places
overlap: there is no opening brace inside a placeholder but its first character.  So taking
the first one and going on behind it misses none, and neither does going on behind a brace
that opens nothing. -/
namespace ClientSynth
namespace Placeholder

open Text (byteCount byteCount_append byteCount_toList)

variable {p q : Placeholder} {template : String} {name other front back rest : List Char}
  {offset : Nat}

/-- The text of a placeholder. -/
def text (p : Placeholder) : String := String.ofList (braced p.name.toList)

/-- The placeholder `p` can be cut out of the template, from behind its first `p.start` bytes
to behind its first `p.stop` bytes. -/
def StandsIn (template : String) (p : Placeholder) : Prop :=
  ∃ front back : String, template = front ++ p.text ++ back ∧ IsName p.name.toList ∧
    p.start = front.utf8ByteSize ∧ p.stop = (front ++ p.text).utf8ByteSize

/-- `ps` are the placeholders of the template. -/
structure ListsAll (template : String) (ps : List Placeholder) : Prop where
  /-- They are those that stand in it, and none is missed. -/
  mem_iff : ∀ p, p ∈ ps ↔ StandsIn template p
  /-- Each begins where the one in front of it has ended. -/
  ordered : ps.Pairwise (fun p q => p.stop ≤ q.start)
  /-- Each covers something. -/
  start_lt_stop : ∀ p ∈ ps, p.start < p.stop
  /-- Each is listed once. -/
  nodup : ps.Nodup
  /-- They begin and end between characters. -/
  isValid : ∀ p ∈ ps, String.Pos.Raw.IsValid template ⟨p.start⟩ ∧
    String.Pos.Raw.IsValid template ⟨p.stop⟩

/-! ### Places do not overlap -/

theorem brace_not_mem (h : IsName name) : '\x7b' ∉ name ∧ '\x7d' ∉ name := by
  refine ⟨fun hmem => ?_, fun hmem => ?_⟩
  · exact absurd (h.isNameChar _ hmem) (by decide)
  · exact absurd (h.isNameChar _ hmem) (by decide)

/-- What begins with a placeholder begins with no other one. -/
theorem braced_append_inj (hname : IsName name) (hother : IsName other)
    (h : braced name ++ back = braced other ++ rest) : name = other ∧ back = rest := by
  rw [braced_append, braced_append] at h
  have htail := List.tail_eq_of_cons_eq h
  have hfirst : afterBrace (name ++ '\x7d' :: back) = some (name, back) :=
    afterBrace_eq_some_iff.mpr ⟨hname, rfl⟩
  have hsecond : afterBrace (other ++ '\x7d' :: rest) = some (other, rest) :=
    afterBrace_eq_some_iff.mpr ⟨hother, rfl⟩
  rw [htail, hsecond] at hfirst
  cases hfirst
  exact ⟨rfl, rfl⟩

/-- A placeholder at the start is all there is of one up to its end. -/
theorem exists_of_append_braced (hother : IsName other) (hfront : front ≠ [])
    (h : front ++ braced name ++ back = braced other ++ rest) :
    ∃ more, front = braced other ++ more ∧ rest = more ++ braced name ++ back := by
  obtain ⟨hopen, hclose⟩ := brace_not_mem hother
  obtain ⟨c, front, rfl⟩ := List.exists_cons_of_ne_nil hfront
  rw [List.append_assoc, braced_append, braced_append, List.cons_append] at h
  obtain ⟨rfl, htail⟩ := List.cons.inj h
  rcases List.append_eq_append_iff.mp htail with ⟨cut, hcut, hleft⟩ | ⟨cut, hcut, hleft⟩
  · -- The front ends inside the name.
    exfalso
    cases cut with
    | nil => exact absurd (List.head_eq_of_cons_eq hleft) (by decide)
    | cons d cut =>
      obtain ⟨rfl, -⟩ := List.cons.inj hleft
      exact hopen (hcut ▸ List.mem_append_right _ List.mem_cons_self)
  · cases cut with
    | nil => exact absurd (List.head_eq_of_cons_eq hleft) (by decide)
    | cons d more =>
      obtain ⟨rfl, hmore⟩ := List.cons.inj hleft
      refine ⟨more, ?_, ?_⟩
      · rw [hcut, braced_append]
      · rw [List.append_assoc, braced_append]
        exact hmore

/-! ### Bytes -/

theorem byteCount_braced (name : List Char) :
    byteCount (braced name) = width (.placeholder (String.ofList name)) := by
  have hopen : byteCount ['\x7b'] = 1 := by decide
  have hclose : byteCount ['\x7d'] = 1 := by decide
  rw [braced, ← List.singleton_append, byteCount_append, byteCount_append, hopen, hclose, width,
    ← byteCount_toList, String.toList_ofList]
  omega

/-- The placeholder `p` can be cut out of `cs`, which start `offset` bytes into a template. -/
def StandsFrom (offset : Nat) (cs : List Char) (p : Placeholder) : Prop :=
  ∃ front name back, cs = front ++ braced name ++ back ∧ IsName name ∧
    p = ⟨String.ofList name, offset + byteCount front, offset + byteCount (front ++ braced name)⟩

theorem standsIn_iff : StandsIn template p ↔ StandsFrom 0 template.toList p := by
  constructor
  · rintro ⟨front, back, rfl, hname, hstart, hstop⟩
    refine ⟨front.toList, p.name.toList, back.toList, ?_, hname, ?_⟩
    · simp [text]
    · rw [← byteCount_toList] at hstart hstop
      rw [String.toList_append, text, String.toList_ofList] at hstop
      rw [String.ofList_toList, Nat.zero_add, Nat.zero_add, ← hstart, ← hstop]
  · rintro ⟨front, name, back, htemplate, hname, rfl⟩
    refine ⟨String.ofList front, String.ofList back, ?_, ?_, ?_, ?_⟩
    · apply String.toList_inj.mp
      simp [text, htemplate]
    · rwa [String.toList_ofList]
    · rw [← byteCount_toList, String.toList_ofList]
      exact Nat.zero_add _
    · rw [← byteCount_toList, String.toList_append, text]
      simp only [String.toList_ofList, Nat.zero_add]

theorem not_standsFrom_nil : ¬ StandsFrom offset [] p := by
  rintro ⟨front, name, back, hcs, -⟩
  simp [braced] at hcs

/-- Behind a placeholder at the start stand all the others: none begins inside it. -/
theorem standsFrom_braced_iff (hname : IsName name) : StandsFrom offset (braced name ++ rest) p ↔
    p = ⟨String.ofList name, offset, offset + byteCount (braced name)⟩ ∨
      StandsFrom (offset + byteCount (braced name)) rest p := by
  constructor
  · rintro ⟨front, other, back, hcs, hother, rfl⟩
    by_cases hfront : front = []
    · subst hfront
      obtain ⟨rfl, rfl⟩ := braced_append_inj hother hname hcs.symm
      exact Or.inl rfl
    · obtain ⟨more, rfl, rfl⟩ := exists_of_append_braced hname hfront hcs.symm
      refine Or.inr ⟨more, other, back, rfl, hother, ?_⟩
      simp only [byteCount_append, Nat.add_assoc]
  · rintro (rfl | ⟨front, other, back, rfl, hother, rfl⟩)
    · exact ⟨[], name, rest, rfl, hname, rfl⟩
    · refine ⟨braced name ++ front, other, back, ?_, hother, ?_⟩
      · simp only [List.append_assoc]
      · simp only [byteCount_append, Nat.add_assoc]

/-- Where no placeholder begins, those of the rest are all. -/
theorem standsFrom_cons_iff {c : Char}
    (hno : ∀ name after, IsName name → c :: rest ≠ braced name ++ after) :
    StandsFrom offset (c :: rest) p ↔ StandsFrom (offset + c.utf8Size) rest p := by
  constructor
  · rintro ⟨front, other, back, hcs, hother, rfl⟩
    cases front with
    | nil => exact absurd hcs (hno other back hother)
    | cons d front =>
      obtain ⟨rfl, rfl⟩ := List.cons.inj hcs
      refine ⟨front, other, back, rfl, hother, ?_⟩
      simp only [List.cons_append, byteCount, Nat.add_assoc]
  · rintro ⟨front, other, back, rfl, hother, rfl⟩
    refine ⟨c :: front, other, back, rfl, hother, ?_⟩
    simp only [List.cons_append, byteCount, Nat.add_assoc]

/-- **The located parts are where the placeholders stand.** -/
theorem mem_located_iff {cs : List Char} {ps : List UrlPart} (h : Splits cs ps) (offset : Nat) :
    p ∈ located offset ps ↔ StandsFrom offset cs p := by
  induction h generalizing offset with
  | done => exact iff_of_false List.not_mem_nil not_standsFrom_nil
  | placeholder hname _ ih =>
    rw [located, List.mem_cons, ih, ← byteCount_braced, standsFrom_braced_iff hname]
  | char hno _ ih => rw [located, ih, standsFrom_cons_iff hno]

/-! ### From left to right -/

/-- Whatever is located lies behind the offset, and covers something. -/
theorem bounds_of_mem_located {ps : List UrlPart} (h : p ∈ located offset ps) :
    offset ≤ p.start ∧ p.start < p.stop := by
  induction ps generalizing offset with
  | nil => cases h
  | cons part ps ih =>
    cases part with
    | char c =>
      have hbounds := ih h
      omega
    | placeholder name =>
      rcases List.mem_cons.mp h with rfl | h
      · have hwidth : 0 < width (.placeholder name) := Nat.succ_pos _
        exact ⟨Nat.le_refl offset, Nat.lt_add_of_pos_right hwidth⟩
      · have hbounds := ih h
        omega

theorem pairwise_located (ps : List UrlPart) (offset : Nat) :
    (located offset ps).Pairwise (fun p q => p.stop ≤ q.start) := by
  induction ps generalizing offset with
  | nil => exact List.Pairwise.nil
  | cons part ps ih =>
    cases part with
    | char c => exact ih _
    | placeholder name =>
      exact List.pairwise_cons.mpr ⟨fun q hq => (bounds_of_mem_located hq).1, ih _⟩

theorem StandsIn.isValid (h : StandsIn template p) :
    String.Pos.Raw.IsValid template ⟨p.start⟩ ∧ String.Pos.Raw.IsValid template ⟨p.stop⟩ := by
  obtain ⟨front, back, htemplate, -, hstart, hstop⟩ := h
  rw [String.Pos.Raw.isValid_iff_exists_append, String.Pos.Raw.isValid_iff_exists_append]
  refine ⟨⟨front, p.text ++ back, ?_, ?_⟩, ⟨front ++ p.text, back, htemplate, ?_⟩⟩
  · rw [htemplate, String.append_assoc]
  · rw [hstart]
    rfl
  · rw [hstop]
    rfl

/-- **The scan lists all placeholders of a template**, each once and from left to right, with
the bytes that it covers. -/
theorem all_listsAll (template : String) : ListsAll template (all template) where
  mem_iff p := by rw [all, mem_located_iff (splits_parts _), standsIn_iff]
  ordered := pairwise_located _ 0
  start_lt_stop p hp := (bounds_of_mem_located hp).2
  nodup := by
    refine List.Pairwise.imp_of_mem (fun {p q} hp _ hpq => ?_) (pairwise_located _ 0)
    rintro rfl
    have hlt := (bounds_of_mem_located hp).2
    omega
  isValid p hp := by
    rw [all, mem_located_iff (splits_parts _), ← standsIn_iff] at hp
    exact hp.isValid

end Placeholder
end ClientSynth
