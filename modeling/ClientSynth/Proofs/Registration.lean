import Mathlib.Data.List.Perm.Basic
import Mathlib.Data.String.Basic
import ClientSynth.Layer.Registration
import ClientSynth.Proofs.Trim

/-! # Registered clients

The entry points of a registration unit split a run: each group has one for the clients of
its members, and every client is a member of one group.  What an entry point registers is
read off its code here, and what a wrap layer is called is read off its units, so that the
two can be compared: they are made independently of each other. -/
namespace ClientSynth
namespace Layer

open Contract Code

/-! ### Groups -/

/-- The order in which groups stand. -/
def Precedes (g h : Option String) : Prop := g ≠ h ∧ insertGroup.precedes g h = true

theorem Precedes.trans {g h k : Option String} (hgh : Precedes g h) (hhk : Precedes h k) :
    Precedes g k := by
  obtain ⟨hne, hgh⟩ := hgh
  obtain ⟨hne', hhk⟩ := hhk
  rcases g with - | a <;> rcases h with - | b <;> rcases k with - | c
  case some.some.some =>
    have hab : a < b := of_decide_eq_true hgh
    have hbc : b < c := of_decide_eq_true hhk
    exact ⟨fun hac => (hab.trans hbc).ne (Option.some.inj hac), decide_eq_true (hab.trans hbc)⟩
  all_goals simp_all [Precedes, insertGroup.precedes]

/-- Of two groups one precedes the other. -/
theorem precedes_of_not {g h : Option String} (hne : g ≠ h)
    (hnot : ¬ insertGroup.precedes g h = true) : Precedes h g := by
  rcases g with - | a <;> rcases h with - | b
  case some.some =>
    have hab : ¬ a < b := fun hab => hnot (decide_eq_true hab)
    have hba : b < a := lt_of_le_of_ne (not_lt.mp hab) (fun hba => hne (congrArg some hba.symm))
    exact ⟨hne.symm, decide_eq_true hba⟩
  all_goals simp_all [Precedes, insertGroup.precedes]

theorem mem_insertGroup {g h : Option String} {l : List (Option String)} :
    h ∈ insertGroup g l ↔ h = g ∨ h ∈ l := by
  induction l with
  | nil => simp [insertGroup]
  | cons other rest ih =>
      unfold insertGroup
      split
      · next hsame => simp [hsame]
      · split
        · simp
        · rw [List.mem_cons, ih, List.mem_cons]
          tauto

/-- A group is put where it belongs, once. -/
theorem pairwise_insertGroup {l : List (Option String)} (h : l.Pairwise Precedes)
    (g : Option String) : (insertGroup g l).Pairwise Precedes := by
  induction l with
  | nil => exact List.pairwise_singleton _ _
  | cons other rest ih =>
      obtain ⟨hother, hrest⟩ := List.pairwise_cons.mp h
      unfold insertGroup
      split
      · exact h
      · next hne =>
        split
        · next hprecedes =>
          have hfirst : Precedes g other := ⟨hne, hprecedes⟩
          refine List.pairwise_cons.mpr ⟨fun k hk => ?_, h⟩
          rcases List.mem_cons.mp hk with rfl | hk
          · exact hfirst
          · exact hfirst.trans (hother k hk)
        · next hnot =>
          refine List.pairwise_cons.mpr ⟨fun k hk => ?_, ih hrest⟩
          rcases mem_insertGroup.mp hk with rfl | hk
          · exact precedes_of_not hne hnot
          · exact hother k hk

theorem pairwise_groups (interfaces : List Interface) : (groups interfaces).Pairwise Precedes := by
  induction interfaces using List.reverseRecOn with
  | nil => exact List.Pairwise.nil
  | append_singleton interfaces i ih =>
      rw [groups, List.foldl_append]
      exact pairwise_insertGroup ih (groupOf i)

/-- The groups of a run are different. -/
theorem nodup_groups (interfaces : List Interface) : (groups interfaces).Nodup :=
  (pairwise_groups interfaces).imp (fun h => h.1)

/-- The groups of a run are those of its interfaces. -/
theorem mem_groups {interfaces : List Interface} {g : Option String} :
    g ∈ groups interfaces ↔ g ∈ interfaces.map groupOf := by
  induction interfaces using List.reverseRecOn with
  | nil => simp [groups]
  | append_singleton interfaces i ih =>
      rw [groups, List.foldl_append, List.foldl_cons, List.foldl_nil, mem_insertGroup, ← groups, ih,
        List.map_append, List.mem_append, List.map_singleton, List.mem_singleton, or_comm]

/-- An interface without a group, or with a blank one, belongs to the unnamed group. -/
theorem groupOf_eq_none_iff {i : Interface} :
    groupOf i = none ↔ ∀ g ∈ i.client.registryGroup, Text.isBlankText g = true := by
  rw [groupOf]
  cases i.client.registryGroup with
  | none => simp
  | some g => simp [← Text.isEmpty_stripBlanks]

/-- The parts of a list under different keys make up what has one of these keys. -/
theorem flatMap_filter_perm {α κ : Type} [BEq κ] [LawfulBEq κ] (keyOf : α → κ) {keys : List κ}
    (hkeys : keys.Nodup) (l : List α) (hall : ∀ a ∈ l, keyOf a ∈ keys) :
    (keys.flatMap (fun k => l.filter (fun a => keyOf a == k))).Perm l := by
  induction keys generalizing l with
  | nil =>
      rw [List.eq_nil_iff_forall_not_mem.mpr (fun a ha => List.not_mem_nil (hall a ha))]
      exact .refl _
  | cons k keys ih =>
      obtain ⟨hk, hkeys⟩ := List.nodup_cons.mp hkeys
      let others := l.filter (fun a => !(keyOf a == k))
      have hothers : ∀ a ∈ others, keyOf a ∈ keys := by
        intro a ha
        obtain ⟨hmem, hne⟩ := List.mem_filter.mp ha
        exact (List.mem_cons.mp (hall a hmem)).resolve_left (by simpa using hne)
      -- Under the other keys it makes no difference that those under the first are gone.
      have hsame : ∀ h ∈ keys, l.filter (fun a => keyOf a == h) =
          others.filter (fun a => keyOf a == h) := by
        intro h hh
        have hne : h ≠ k := fun heq => hk (heq ▸ hh)
        rw [List.filter_filter]
        refine List.filter_congr (fun a _ => ?_)
        by_cases ha : keyOf a = h <;> simp [ha, hne]
      rw [List.flatMap_cons, List.flatMap_congr hsame]
      exact ((ih hkeys others hothers).append_left _).trans (List.filter_append_perm _ l)

/-- **The members of the groups are all interfaces of the run, each of them once.** -/
theorem membersOf_perm (interfaces : List Interface) :
    ((groups interfaces).flatMap (membersOf interfaces)).Perm interfaces :=
  flatMap_filter_perm groupOf (nodup_groups interfaces) interfaces
    (fun _ hi => mem_groups.mpr (List.mem_map_of_mem hi))

/-! ### What code registers -/

/-- What stands in a text between a fixed start and a fixed ending. -/
def between (start ending s : String) : Option String :=
  (Text.dropPrefix? start s).bind (Text.dropSuffix? ending)

theorem between_append (start s ending : String) :
    between start ending (start ++ s ++ ending) = some s := by
  rw [between, String.append_assoc, Text.dropPrefix?_append, Option.bind_some,
    Text.dropSuffix?_append]

/-- A client that is registered: its trait, and the type that is put behind it. -/
structure ClientEntry where
  interface : String
  implementation : String
  deriving Repr, DecidableEq

/-- A wrap layer that is registered, and the trait of the client behind it. -/
structure WrapEntry where
  names : WrapNames
  client : String
  deriving Repr, DecidableEq

/-- The client that a statement registers. -/
def readClient? : Stmt → Option ClientEntry
  | .eval (.attempt (.call callee [_, _, .closure _ _ (.call _ [.call constructor _])])) => do
    let interface ← between "registry.add_http_client::<dyn " ">" callee
    let implementation ← Text.dropSuffix? "::with_base_address" constructor
    return ⟨interface, implementation⟩
  | _ => none

/-- The wrap layer that a statement registers. -/
def readWrap? : Stmt → Option WrapEntry
  | .eval (.call callee [.closure _ _ (.call _ [.call _
      [.call constructor [.attempt (.call client _), .attempt (.call manager _)]]])]) => do
    let interface ← between "registry.add_transient::<dyn " ", _>" callee
    let implementation ← Text.dropSuffix? "::new" constructor
    let client ← between "registry.resolve::<dyn " ">" client
    let tokenManager ← between "registry.resolve::<dyn " ">" manager
    return ⟨⟨interface, implementation, tokenManager⟩, client⟩
  | _ => none

/-- The clients that a body registers, if it succeeds then and does nothing else. -/
def readClients : Block → Option (List ClientEntry)
  | [.tail (.raw code)] => if code = "Ok(())" then some [] else none
  | s :: rest => do return (← readClient? s) :: (← readClients rest)
  | [] => none

/-- The clients that an entry point registers. -/
def clientsOf (f : Function) : Option (List ClientEntry) := f.body.bind readClients

/-- The wrap layers that an entry point registers, if it does nothing else. -/
def wrapsOf (f : Function) : Option (List WrapEntry) := f.body.bind (List.mapM readWrap?)

/-- The wrap layer that two units make: the trait, the type that implements it, and what
this type holds. -/
def emittedWrap? : List CodeUnit → Option WrapEntry
  | [⟨_, _, [.trait t]⟩, ⟨_, _, [.struct s, .implementation _, .implementation i]⟩] =>
    if i.ofTrait = some t.name ∧ i.target = s.name then
      match s.fields with
      | [(_, client), (_, manager)] => do
        let client ← between "Arc<dyn " ">" client
        let tokenManager ← between "Arc<dyn " ">" manager
        return ⟨⟨t.name, s.name, tokenManager⟩, client⟩
      | _ => none
    else none
  | _ => none

/-- How a client is to be registered. -/
def clientEntry (i : Interface) : ClientEntry := ⟨i.name, i.implementation⟩

/-- How a wrap layer is to be registered, if there is one. -/
def wrapEntry (options : Options) (i : Interface) : Option WrapEntry :=
  match wrapNames i options with
  | some (.ok names) => some ⟨names, i.name⟩
  | _ => none

theorem readClient?_registerClient (i : Interface) :
    readClient? (registerClient i) = some (clientEntry i) := by
  simp [registerClient, readClient?, Expr.lambda, between_append, Text.dropSuffix?_append,
    clientEntry]

theorem readClients_registerClient (members : List Interface) :
    readClients (members.map registerClient ++ [.tail (.raw "Ok(())")]) =
      some (members.map clientEntry) := by
  induction members with
  | nil => rfl
  | cons i rest ih =>
      have hcons : ∀ body, readClients (registerClient i :: body) =
          (do return (← readClient? (registerClient i)) :: (← readClients body)) := fun _ => rfl
      rw [List.map_cons, List.cons_append, hcons, readClient?_registerClient, ih]
      rfl

/-- A wrap layer is registered if it has names, and by these names. -/
theorem map_readWrap?_registerWrap (options : Options) (i : Interface) :
    (registerWrap options i).map readWrap? = (wrapEntry options i).map some := by
  rw [registerWrap, wrapEntry]
  rcases wrapNames i options with - | (failure | names)
  · rfl
  · rfl
  · simp [readWrap?, Expr.lambda, between_append, Text.dropSuffix?_append]

/-- The units of a wrap layer say of it what its registration says. -/
theorem emittedWrap?_wrapUnits (i : Interface) (options : Options) :
    emittedWrap? (wrapUnits i options).value = wrapEntry options i := by
  rw [wrapUnits, wrapEntry]
  rcases wrapNames i options with - | (failure | names)
  · rfl
  · rfl
  · simp [emittedWrap?, wrapTraitUnit, wrapImplementationUnit, between_append]

/-- Whether an interface has the two units of a wrap layer. -/
def emitsWrap (options : Options) (i : Interface) : Bool :=
  (wrapUnits i options).value.length == 2

theorem emitsWrap_eq (options : Options) (i : Interface) :
    emitsWrap options i = (wrapEntry options i).isSome := by
  rw [emitsWrap, wrapUnits, wrapEntry]
  rcases wrapNames i options with - | (failure | names) <;> rfl

/-! ### The entry points of a run -/

/-- A group and its entry points. -/
structure GroupEntries where
  group : Option String
  clients : Function
  /-- The entry point for wrap layers, if there is one. -/
  wraps : Option Function

namespace GroupEntries

/-- The entry points as they stand in a unit. -/
def items (e : GroupEntries) : List Item := .function e.clients :: (e.wraps.map .function).toList

/-- The interfaces of a run that belong to the group, in the order of the run. -/
def members (e : GroupEntries) (interfaces : List Interface) : List Interface :=
  interfaces.filter (fun i => groupOf i == e.group)

end GroupEntries

/-- Entry points that split the interfaces of a run. -/
structure IsPartition (interfaces : List Interface) (options : Options)
    (entries : List GroupEntries) : Prop where
  /-- A group has its entry points once. -/
  groups : (entries.map GroupEntries.group).Nodup
  /-- No group is without members. -/
  members : ∀ e ∈ entries, e.members interfaces ≠ []
  names : ∀ e ∈ entries, e.clients.name = Naming.registrationEntry e.group false ∧
    ∀ f ∈ e.wraps, f.name = Naming.registrationEntry e.group true
  /-- An entry point registers the clients of the members of its group, in their order. -/
  clients : ∀ e ∈ entries, clientsOf e.clients = some ((e.members interfaces).map clientEntry)
  /-- The members of all groups are all interfaces, each of them once. -/
  complete : (entries.flatMap (fun e => e.members interfaces)).Perm interfaces
  /-- A group has an entry point for wrap layers if one of its members has units of one. -/
  wraps_isSome : ∀ e ∈ entries,
    e.wraps.isSome = true ↔ ∃ i ∈ e.members interfaces, emitsWrap options i = true
  /-- It registers the wrap layers of these members, in their order and as their units
  name them. -/
  wraps : ∀ e ∈ entries, ∀ f ∈ e.wraps, ∃ layers, wrapsOf f = some layers ∧
    layers.map some = ((e.members interfaces).filter (emitsWrap options)).map
      (fun i => emittedWrap? (wrapUnits i options).value)

/-- The entry points of a group. -/
def entriesOf (interfaces : List Interface) (options : Options) (group : Option String) :
    GroupEntries where
  group := group
  clients := (entryPoint group false ["Registers the typed clients of the " ++ groupLabel group]
    ((membersOf interfaces group).map registerClient ++ [.tail (.raw "Ok(())")])).returning
      ("Result<(), " ++ Request.errorType ++ ">")
  wraps :=
    let wraps := (membersOf interfaces group).filterMap (registerWrap options)
    if wraps.isEmpty then none
    else some (entryPoint group true
      ["Registers the wrap clients of the " ++ groupLabel group, "",
        "Needs the typed clients and the token managers registered first."] wraps)

theorem groupItems_eq (interfaces : List Interface) (options : Options) (group : Option String) :
    groupItems options group (membersOf interfaces group) =
      (entriesOf interfaces options group).items := by
  rw [groupItems, GroupEntries.items, entriesOf]
  dsimp only
  split <;> rfl

theorem name_registrationUnit {interfaces : List Interface} {options : Options} {unit : CodeUnit}
    (h : registrationUnit interfaces options = some unit) : unit.name = registrationUnitName := by
  rw [registrationUnit] at h
  split at h
  · cases h
  · cases h
    rfl

/-- A registration unit holds the entry points of the groups of its run. -/
theorem items_registrationUnit {interfaces : List Interface} (h : interfaces ≠ [])
    (options : Options) : ∃ unit, registrationUnit interfaces options = some unit ∧
      unit.items =
        ((groups interfaces).map (entriesOf interfaces options)).flatMap GroupEntries.items := by
  rw [registrationUnit, if_neg (by simpa using h)]
  refine ⟨_, rfl, ?_⟩
  simp only [groupItems_eq, List.flatMap_map]

/-- The layers that are registered are those of the members that have one. -/
theorem mapM_readWrap? (options : Options) (members : List Interface) :
    (members.filterMap (registerWrap options)).mapM readWrap? =
      some (members.filterMap (wrapEntry options)) := by
  induction members with
  | nil => rfl
  | cons i rest ih =>
      have hfirst := map_readWrap?_registerWrap options i
      cases hentry : wrapEntry options i with
      | none =>
          rw [hentry, Option.map_none, Option.map_eq_none_iff] at hfirst
          rw [List.filterMap_cons_none hfirst, List.filterMap_cons_none hentry, ih]
      | some layer =>
          rw [hentry, Option.map_some, Option.map_eq_some_iff] at hfirst
          obtain ⟨statement, hstatement, hread⟩ := hfirst
          rw [List.filterMap_cons_some hstatement, List.filterMap_cons_some hentry, List.mapM_cons,
            hread, ih]
          rfl

theorem map_some_wrapEntry (options : Options) (members : List Interface) :
    (members.filterMap (wrapEntry options)).map some = (members.filter (emitsWrap options)).map
      (fun i => emittedWrap? (wrapUnits i options).value) := by
  induction members with
  | nil => rfl
  | cons i rest ih =>
      have hemits := emitsWrap_eq options i
      cases hentry : wrapEntry options i with
      | none =>
          rw [hentry] at hemits
          rw [List.filterMap_cons_none hentry, List.filter_cons_of_neg (by simp [hemits]), ih]
      | some layer =>
          rw [hentry] at hemits
          rw [List.filterMap_cons_some hentry, List.filter_cons_of_pos hemits, List.map_cons,
            List.map_cons, ih, emittedWrap?_wrapUnits, hentry]

theorem wraps_entriesOf (interfaces : List Interface) (options : Options) (group : Option String)
    {f : Function} (h : f ∈ (entriesOf interfaces options group).wraps) :
    f.name = Naming.registrationEntry group true ∧
      f.body = some ((membersOf interfaces group).filterMap (registerWrap options)) := by
  rw [entriesOf] at h
  dsimp only at h
  split at h
  · cases h
  · obtain rfl := Option.some.inj h
    exact ⟨rfl, rfl⟩

theorem isSome_registerWrap (options : Options) (i : Interface) :
    (registerWrap options i).isSome = emitsWrap options i := by
  rw [emitsWrap_eq, ← Option.isSome_map, map_readWrap?_registerWrap, Option.isSome_map]

theorem isSome_wraps_entriesOf (interfaces : List Interface) (options : Options)
    (group : Option String) : (entriesOf interfaces options group).wraps.isSome = true ↔
      ∃ i ∈ membersOf interfaces group, emitsWrap options i = true := by
  have hempty : ((membersOf interfaces group).filterMap (registerWrap options)).isEmpty = true ↔
      ∀ i ∈ membersOf interfaces group, ¬ emitsWrap options i = true := by
    simp only [List.isEmpty_iff, List.filterMap_eq_nil_iff, ← isSome_registerWrap,
      Option.not_isSome_iff_eq_none]
  rw [entriesOf]
  dsimp only
  split
  · next hnone =>
    refine iff_of_false Bool.false_ne_true ?_
    rintro ⟨i, hi, hemits⟩
    exact hempty.mp hnone i hi hemits
  · next hsome =>
    refine iff_of_true rfl ?_
    by_contra hnone
    exact hsome (hempty.mpr (fun i hi hemits => hnone ⟨i, hi, hemits⟩))

theorem isPartition_entriesOf (interfaces : List Interface) (options : Options) :
    IsPartition interfaces options ((groups interfaces).map (entriesOf interfaces options)) where
  groups := by
    rw [List.map_map]
    exact (List.map_id' (groups interfaces)).symm ▸ nodup_groups interfaces
  members := by
    refine List.forall_mem_map.mpr (fun g hg => ?_)
    obtain ⟨i, hi, hgroup⟩ := List.mem_map.mp (mem_groups.mp hg)
    exact List.ne_nil_of_mem (List.mem_filter.mpr ⟨hi, beq_iff_eq.mpr hgroup⟩)
  names := by
    refine List.forall_mem_map.mpr (fun g _ => ⟨rfl, fun f hf => ?_⟩)
    exact (wraps_entriesOf interfaces options g hf).1
  clients := List.forall_mem_map.mpr (fun g _ => readClients_registerClient _)
  complete := by
    rw [List.flatMap_map]
    exact membersOf_perm interfaces
  wraps_isSome := List.forall_mem_map.mpr (fun g _ => isSome_wraps_entriesOf interfaces options g)
  wraps := by
    refine List.forall_mem_map.mpr (fun g _ f hf => ?_)
    refine ⟨(membersOf interfaces g).filterMap (wrapEntry options), ?_, map_some_wrapEntry _ _⟩
    rw [wrapsOf, (wraps_entriesOf interfaces options g hf).2, Option.bind_some, mapM_readWrap?]

/-- **The registration unit of a run is a partition of its interfaces.** -/
theorem registrationUnit_isPartition (interfaces : List Interface) (options : Options)
    (h : interfaces ≠ []) : ∃ unit entries, registrationUnit interfaces options = some unit ∧
      unit.items = entries.flatMap GroupEntries.items ∧
      IsPartition interfaces options entries := by
  obtain ⟨unit, hunit, hitems⟩ := items_registrationUnit h options
  exact ⟨unit, _, hunit, hitems, isPartition_entriesOf interfaces options⟩

/-! ### What a unit registers -/

/-- An entry point registers the client of this name, or a wrap layer over it. -/
def EntryRegisters (f : Function) (name : String) : Prop :=
  (∃ clients, clientsOf f = some clients ∧ name ∈ clients.map ClientEntry.interface) ∨
    ∃ layers, wrapsOf f = some layers ∧ name ∈ layers.map WrapEntry.client

/-- Some entry point of the unit does. -/
def Registers (unit : CodeUnit) (name : String) : Prop :=
  ∃ f, .function f ∈ unit.items ∧ EntryRegisters f name

theorem entryRegisters_clients {interfaces : List Interface} {options : Options}
    {group : Option String} {name : String} :
    EntryRegisters (entriesOf interfaces options group).clients name ↔
      name ∈ (membersOf interfaces group).map Interface.name := by
  have hclients : clientsOf (entriesOf interfaces options group).clients =
      some ((membersOf interfaces group).map clientEntry) := readClients_registerClient _
  have hwraps : wrapsOf (entriesOf interfaces options group).clients = none := by
    show List.mapM readWrap? (_ ++ [_]) = none
    rw [List.mapM_append]
    cases ((membersOf interfaces group).map registerClient).mapM readWrap? <;> rfl
  rw [EntryRegisters, hclients, hwraps]
  simp [clientEntry]

/-- What registers a wrap layer does not read as registering a client. -/
theorem readClients_registerWrap {options : Options} {i : Interface} {first : Stmt}
    (h : registerWrap options i = some first) (rest : Block) :
    readClients (first :: rest) = none := by
  rw [registerWrap] at h
  split at h
  · cases h
    rfl
  · cases h

theorem entryRegisters_wraps {interfaces : List Interface} {options : Options}
    {group : Option String} {f : Function} (hf : f ∈ (entriesOf interfaces options group).wraps)
    {name : String} (h : EntryRegisters f name) :
    name ∈ (membersOf interfaces group).map Interface.name := by
  have hbody := (wraps_entriesOf interfaces options group hf).2
  rcases h with ⟨clients, hclients, hname⟩ | ⟨layers, hlayers, hname⟩
  · rw [clientsOf, hbody, Option.bind_some] at hclients
    -- The body of a wrap registration is not that of a client registration: its first
    -- statement, if it has any, is not read as one.
    cases hstatements : (membersOf interfaces group).filterMap (registerWrap options) with
    | nil =>
        rw [hstatements] at hclients
        cases hclients
    | cons first rest =>
        have hmem : first ∈ (membersOf interfaces group).filterMap (registerWrap options) :=
          hstatements ▸ List.mem_cons_self
        obtain ⟨i, -, hfirst⟩ := List.mem_filterMap.mp hmem
        rw [hstatements, readClients_registerWrap hfirst] at hclients
        cases hclients
  · rw [wrapsOf, hbody, Option.bind_some, mapM_readWrap?] at hlayers
    obtain rfl := Option.some.inj hlayers
    obtain ⟨layer, hlayer, rfl⟩ := List.mem_map.mp hname
    obtain ⟨i, hi, hentry⟩ := List.mem_filterMap.mp hlayer
    rw [wrapEntry] at hentry
    split at hentry
    · cases hentry
      exact List.mem_map_of_mem hi
    · cases hentry

/-- **The registration unit of a run registers its interfaces and no others.** -/
theorem registers_iff {interfaces : List Interface} {options : Options} {unit : CodeUnit}
    (h : registrationUnit interfaces options = some unit) {name : String} :
    Registers unit name ↔ name ∈ interfaces.map Interface.name := by
  have hne : interfaces ≠ [] := by
    rintro rfl
    cases h
  obtain ⟨unit', hunit', hitems⟩ := items_registrationUnit hne options
  obtain rfl := Option.some.inj (h.symm.trans hunit')
  have hmem : ∀ f, .function f ∈ unit.items ↔ ∃ g ∈ groups interfaces,
      f = (entriesOf interfaces options g).clients ∨
        f ∈ (entriesOf interfaces options g).wraps := by
    intro f
    simp [hitems, GroupEntries.items]
  constructor
  · rintro ⟨f, hf, hregisters⟩
    obtain ⟨g, -, hof⟩ := (hmem f).mp hf
    have hname : name ∈ (membersOf interfaces g).map Interface.name := by
      rcases hof with rfl | hwraps
      · exact entryRegisters_clients.mp hregisters
      · exact entryRegisters_wraps hwraps hregisters
    exact (List.filter_sublist.map _).mem hname
  · intro hname
    obtain ⟨i, hi, rfl⟩ := List.mem_map.mp hname
    have hgroup : groupOf i ∈ groups interfaces := mem_groups.mpr (List.mem_map_of_mem hi)
    refine ⟨_, (hmem _).mpr ⟨groupOf i, hgroup, Or.inl rfl⟩, entryRegisters_clients.mpr ?_⟩
    exact List.mem_map_of_mem (List.mem_filter.mpr ⟨hi, beq_self_eq_true _⟩)

/-- A client without methods, in a group and perhaps with a wrap layer. -/
def groupedApi (name : String) (group : Option String) (wrap : Option WrapDescriptor) :
    Interface :=
  ⟨name, "api.yaml", [], [], ⟨none, none, none, group, false, none⟩, wrap⟩

/-- Three clients: two without a group, and one in a group of its own whose wrap layer has
no token manager. -/
def groupedApis : List Interface :=
  [groupedApi "IUserApi" none (some ⟨none, none⟩),
    groupedApi "IAuditApi" (some " admin ") (some ⟨none, some " "⟩),
    groupedApi "IOrderApi" (some "  ") none]

theorem groupedApis_isPartition : groupedApis ≠ [] ∧
    groups groupedApis = [none, some "admin"] ∧
    ∃ unit entries, registrationUnit groupedApis ⟨none, none⟩ = some unit ∧
      unit.items = entries.flatMap GroupEntries.items ∧
      IsPartition groupedApis ⟨none, none⟩ entries := by
  have hne : groupedApis ≠ [] := List.cons_ne_nil _ _
  exact ⟨hne, by decide, registrationUnit_isPartition groupedApis ⟨none, none⟩ hne⟩

end Layer
end ClientSynth
