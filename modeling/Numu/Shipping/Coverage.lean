import Numu.Foundation.Outcome
import Numu.Foundation.Run
import Numu.Shipping.ShippingZone

/-! At most one active zone of a store covers a governorate. -/

namespace Numu.Shipping
open Numu.Orders (UUID)
open Numu.Outcome (orKeep)
open ShippingZoneRepository

/-- What an edit sets; the zone's key and store stay. -/
structure ZoneEdit where
  name : String
  nameAr : Option String := none
  estimatedDaysMin : Nat := 2
  estimatedDaysMax : Nat := 5
  codEnabled : Bool := true
  codFeeCents : Nat := 0
  isActive : Bool := true
  sortOrder : Int := 0

def ZoneEdit.entity (edit : ZoneEdit) (zone : ShippingZone) : ShippingZone where
  id := zone.id
  storeId := zone.storeId
  name := edit.name
  nameAr := edit.nameAr
  estimatedDaysMin := edit.estimatedDaysMin
  estimatedDaysMax := edit.estimatedDaysMax
  codEnabled := edit.codEnabled
  codFeeCents := edit.codFeeCents
  isActive := edit.isActive
  sortOrder := edit.sortOrder

inductive ZoneLabel where
  | createZone (zone : ShippingZone) (governorateCodes : List String)
  | updateZone (zoneId : UUID) (edit : ZoneEdit) (governorateCodes : Option (List String))
  | deleteZone (zoneId : UUID)

namespace ShippingTables

/-- The store's lock serialises the calls; one that raises is rolled back. -/
def step (tables : ShippingTables) (label : ZoneLabel) : ShippingTables :=
  match label with
  | .createZone zone codes => orKeep tables (createZone tables zone codes)
  | .updateZone zoneId edit codes =>
      match getZone tables zoneId with
      | none => tables
      | some zone => orKeep tables (updateZone tables (edit.entity zone) codes)
  | .deleteZone zoneId => deleteZone tables zoneId

/-- The zone is active in the store and covers the governorate. -/
def Covers (tables : ShippingTables) (zoneId storeId : UUID) (code : String) : Prop :=
  ∃ zone, tables.zones.get? zoneId = some zone ∧ zone.isActive = true ∧ zone.storeId = storeId ∧
    code ∈ governorateCodes tables zoneId

def Unambiguous (tables : ShippingTables) : Prop :=
  ∀ storeId code first second,
    tables.Covers first storeId code → tables.Covers second storeId code → first = second

/-- The rows belong to zones of their store. -/
structure Linked (tables : ShippingTables) : Prop where
  keyed : ∀ zoneId zone, tables.zones.get? zoneId = some zone → zone.id = zoneId
  owned : ∀ row ∈ tables.governorates,
    ∃ zone, tables.zones.get? row.zoneId = some zone ∧ zone.storeId = row.storeId

/-- An update without governorates finds no conflict for those of the zone it activates. -/
def Checked (tables : ShippingTables) : ZoneLabel → Prop
  | .updateZone zoneId edit none =>
      edit.isActive = true → ∀ zone, getZone tables zoneId = some zone →
        checkGovernorateConflicts tables zone.storeId (governorateCodes tables zoneId)
          (some zoneId) = []
  | _ => True

section Membership
variable {tables : ShippingTables}

theorem mem_governorateCodes {zoneId : UUID} {code : String} :
    code ∈ governorateCodes tables zoneId ↔
      ∃ row ∈ tables.governorates, row.zoneId = zoneId ∧ row.governorateCode = code := by
  rw [governorateCodes, List.mem_map]
  constructor
  · intro facts
    rcases facts with ⟨row, member, same⟩
    rw [List.mem_filter, decide_eq_true_eq] at member
    exact ⟨row, member.1, member.2, same⟩
  · intro facts
    rcases facts with ⟨row, member, mine, same⟩
    exact ⟨row, List.mem_filter.mpr ⟨member, decide_eq_true mine⟩, same⟩

/-- The check finds the governorates that an active zone of the store covers already. -/
theorem conflict_iff (linked : Linked tables) {storeId : UUID} {codes : List String}
    {exclude : Option UUID} {code : String} :
    code ∈ checkGovernorateConflicts tables storeId codes exclude ↔
      code ∈ codes ∧ ∃ zoneId, tables.Covers zoneId storeId code ∧ exclude ≠ some zoneId := by
  rw [checkGovernorateConflicts]
  split
  · rename_i empty
    simp [empty]
  · simp only [List.mem_map, List.mem_filter, Bool.and_eq_true, decide_eq_true_eq]
    constructor
    · intro facts
      rcases facts with ⟨row, ⟨member, ⟨⟨mine, listed⟩, active⟩, apart⟩, rfl⟩
      rcases linked.owned row member with ⟨zone, found, store⟩
      rw [found] at active
      refine ⟨listed, row.zoneId, ⟨zone, found, by simpa using active, store.trans mine, ?_⟩, apart⟩
      exact mem_governorateCodes.mpr ⟨row, member, rfl, rfl⟩
    · intro facts
      rcases facts with ⟨listed, zoneId, ⟨zone, found, active, store, covered⟩, apart⟩
      rcases mem_governorateCodes.mp covered with ⟨row, member, rfl, rfl⟩
      rcases linked.owned row member with ⟨owner, found', store'⟩
      rw [found] at found'
      cases found'
      refine ⟨row, ⟨member, ⟨⟨store'.symm.trans store, listed⟩, ?_⟩, apart⟩, rfl⟩
      rw [found]
      simpa using active

theorem no_conflicts_iff (linked : Linked tables) {storeId : UUID} {codes : List String}
    {exclude : Option UUID} :
    checkGovernorateConflicts tables storeId codes exclude = [] ↔
      ∀ code ∈ codes, ∀ zoneId, tables.Covers zoneId storeId code → exclude = some zoneId := by
  rw [List.eq_nil_iff_forall_not_mem]
  constructor
  · intro free code listed zoneId covers
    by_contra apart
    exact free code ((conflict_iff linked).mpr ⟨listed, zoneId, covers, apart⟩)
  · intro free code conflict
    rcases (conflict_iff linked).mp conflict with ⟨listed, zoneId, covers, apart⟩
    exact apart (free code listed zoneId covers)

/-- Writing one zone is safe where no other zone covers what it then covers. -/
theorem Unambiguous.write {after : ShippingTables} (unambiguous : Unambiguous tables)
    (written : UUID)
    (others : ∀ zoneId storeId code, zoneId ≠ written → after.Covers zoneId storeId code →
      tables.Covers zoneId storeId code)
    (own : ∀ storeId code, after.Covers written storeId code →
      ∀ zoneId, tables.Covers zoneId storeId code → zoneId = written) : Unambiguous after := by
  intro storeId code first second coversFirst coversSecond
  by_cases here : first = written
  · by_cases there : second = written
    · rw [here, there]
    · have earlier := others second storeId code there coversSecond
      rw [here] at coversFirst
      exact absurd (own storeId code coversFirst second earlier) there
  · have earlier := others first storeId code here coversFirst
    by_cases there : second = written
    · rw [there] at coversSecond
      exact absurd (own storeId code coversSecond first earlier) here
    · exact unambiguous storeId code first second earlier
        (others second storeId code there coversSecond)

end Membership

section Steps
variable {tables after : ShippingTables}

theorem createZone_ok {zone : ShippingZone} {codes : List String}
    (ok : createZone tables zone codes = .ok after) :
    checkGovernorateConflicts tables zone.storeId codes none = [] ∧
      tables.zones.get? zone.id = none ∧
      after = { tables with
        zones := tables.zones.set zone.id zone
        governorates := tables.governorates ++ memberships zone codes } := by
  rw [createZone] at ok
  split at ok
  · cases ok
  · rename_i free
    split at ok
    · cases ok
    · rename_i accepted
      cases ok
      rw [Bool.or_eq_true, not_or, Bool.not_eq_true, Option.isSome_eq_false_iff,
        Option.isNone_iff_eq_none] at accepted
      exact ⟨not_not.mp free, accepted.1, rfl⟩

theorem updateZone_ok {zone : ShippingZone} {codes : Option (List String)}
    (ok : updateZone tables zone codes = .ok after) :
    updateConflicts tables zone codes = [] ∧
      after = { tables with
        zones := tables.zones.set zone.id zone
        governorates := replaced tables zone codes } := by
  rw [updateZone] at ok
  split at ok
  · cases ok
  · simp only at ok
    split at ok
    · cases ok
    · rename_i free
      split at ok
      · cases ok
      · cases ok
        exact ⟨not_not.mp free, rfl⟩

theorem mem_memberships {zone : ShippingZone} {codes : List String} {row : ZoneGovernorate} :
    row ∈ memberships zone codes ↔
      row.zoneId = zone.id ∧ row.storeId = zone.storeId ∧ row.governorateCode ∈ codes := by
  rw [memberships, List.mem_map]
  constructor
  · intro facts
    rcases facts with ⟨code, listed, rfl⟩
    exact ⟨rfl, rfl, listed⟩
  · intro facts
    rcases facts with ⟨mine, store, listed⟩
    refine ⟨row.governorateCode, listed, ?_⟩
    cases row
    simp only at mine store
    rw [mine, store]

/-- The rows of the other zones stay. -/
theorem replaced_others {zone : ShippingZone} {codes : Option (List String)}
    {row : ZoneGovernorate} (other : row.zoneId ≠ zone.id) :
    row ∈ replaced tables zone codes ↔ row ∈ tables.governorates := by
  cases codes with
  | none => rfl
  | some codes =>
      rw [replaced, List.mem_append, List.mem_filter, decide_eq_true_eq, mem_memberships]
      constructor
      · intro facts
        rcases facts with ⟨member, -⟩ | ⟨mine, -⟩
        · exact member
        · exact absurd mine other
      · exact fun member => .inl ⟨member, other⟩

theorem Linked.create (linked : Linked tables) {zone : ShippingZone} {codes : List String}
    (ok : createZone tables zone codes = .ok after) : Linked after := by
  rcases createZone_ok ok with ⟨-, fresh, rfl⟩
  constructor
  · intro zoneId stored found
    rw [Table.get?_set] at found
    split at found
    · rename_i here
      cases found
      exact here.symm
    · exact linked.keyed zoneId stored found
  · intro row member
    simp only [Table.get?_set]
    rcases List.mem_append.mp member with earlier | new
    · rcases linked.owned row earlier with ⟨owner, found, store⟩
      have apart : row.zoneId ≠ zone.id := by
        intro same
        rw [same, fresh] at found
        cases found
      exact ⟨owner, by rw [if_neg apart]; exact found, store⟩
    · rcases mem_memberships.mp new with ⟨mine, store, -⟩
      exact ⟨zone, if_pos mine, store.symm⟩

theorem Linked.update (linked : Linked tables) {zone stored : ShippingZone}
    {codes : Option (List String)} (found : tables.zones.get? zone.id = some stored)
    (sameStore : zone.storeId = stored.storeId)
    (ok : updateZone tables zone codes = .ok after) : Linked after := by
  rcases updateZone_ok ok with ⟨-, rfl⟩
  constructor
  · intro zoneId entry present
    rw [Table.get?_set] at present
    split at present
    · rename_i here
      cases present
      exact here.symm
    · exact linked.keyed zoneId entry present
  · intro row member
    simp only [Table.get?_set]
    by_cases mine : row.zoneId = zone.id
    · refine ⟨zone, if_pos mine, ?_⟩
      have kept (earlier : row ∈ tables.governorates) : zone.storeId = row.storeId := by
        rcases linked.owned row earlier with ⟨owner, present, store⟩
        rw [mine, found] at present
        cases present
        exact sameStore.trans store
      cases codes with
      | none => exact kept member
      | some codes =>
          rcases List.mem_append.mp member with earlier | new
          · exact kept (List.mem_filter.mp earlier).1
          · exact (mem_memberships.mp new).2.1.symm
    · rcases linked.owned row ((replaced_others mine).mp member) with ⟨owner, present, store⟩
      exact ⟨owner, by rw [if_neg mine]; exact present, store⟩

theorem get?_delete (zoneId other : UUID) :
    (deleteZone tables zoneId).zones.get? other =
      if other = zoneId then (tables.zones.get? other).map fun zone => { zone with isActive := false }
      else tables.zones.get? other := by
  rw [deleteZone]
  split
  · rename_i here
    rw [here, Table.get?_modify_self]
  · rename_i apart
    exact Table.get?_modify_of_ne _ _ apart

theorem Linked.delete (linked : Linked tables) (zoneId : UUID) :
    Linked (deleteZone tables zoneId) := by
  constructor
  · intro id zone found
    rw [get?_delete] at found
    split at found
    · rcases Option.map_eq_some_iff.mp found with ⟨old, present, rfl⟩
      exact linked.keyed id old present
    · exact linked.keyed id zone found
  · intro row member
    rcases linked.owned row member with ⟨owner, present, store⟩
    rw [get?_delete]
    split
    · exact ⟨{ owner with isActive := false }, by rw [present]; rfl, store⟩
    · exact ⟨owner, present, store⟩

/-- Another zone covers after the write what it covered before. -/
theorem covers_others {zone : ShippingZone} {rows : List ZoneGovernorate}
    (same : ∀ row : ZoneGovernorate, row.zoneId ≠ zone.id →
      (row ∈ rows ↔ row ∈ tables.governorates)) {zoneId storeId : UUID} {code : String}
    (other : zoneId ≠ zone.id) :
    Covers { tables with zones := tables.zones.set zone.id zone, governorates := rows } zoneId
      storeId code ↔ tables.Covers zoneId storeId code := by
  have members : code ∈ governorateCodes
      { tables with zones := tables.zones.set zone.id zone, governorates := rows } zoneId ↔
        code ∈ governorateCodes tables zoneId := by
    rw [mem_governorateCodes, mem_governorateCodes]
    constructor
    · intro facts
      rcases facts with ⟨row, member, mine, listed⟩
      exact ⟨row, (same row (mine ▸ other)).mp member, mine, listed⟩
    · intro facts
      rcases facts with ⟨row, member, mine, listed⟩
      exact ⟨row, (same row (mine ▸ other)).mpr member, mine, listed⟩
  rw [Covers, Covers, members]
  simp only [Table.get?_set, if_neg other]

/-- What the written zone covers. -/
theorem covers_written {zone : ShippingZone} {rows : List ZoneGovernorate} {storeId : UUID}
    {code : String} :
    Covers { tables with zones := tables.zones.set zone.id zone, governorates := rows } zone.id
      storeId code ↔ zone.isActive = true ∧ zone.storeId = storeId ∧
        ∃ row ∈ rows, row.zoneId = zone.id ∧ row.governorateCode = code := by
  rw [Covers, mem_governorateCodes]
  simp only [Table.get?_set, if_pos]
  constructor
  · intro facts
    rcases facts with ⟨entry, found, active, store, covered⟩
    cases found
    exact ⟨active, store, covered⟩
  · intro facts
    rcases facts with ⟨active, store, covered⟩
    exact ⟨zone, rfl, active, store, covered⟩

theorem Unambiguous.create (unambiguous : Unambiguous tables) (linked : Linked tables)
    {zone : ShippingZone} {codes : List String}
    (ok : createZone tables zone codes = .ok after) : Unambiguous after := by
  rcases createZone_ok ok with ⟨free, fresh, rfl⟩
  apply unambiguous.write zone.id
  · intro zoneId storeId code other covers
    apply (covers_others (fun row apart => ?_) other).mp covers
    rw [List.mem_append, mem_memberships]
    constructor
    · intro facts
      rcases facts with member | ⟨mine, -⟩
      · exact member
      · exact absurd mine apart
    · exact .inl
  · intro storeId code covers zoneId rival
    rcases covers_written.mp covers with ⟨-, rfl, row, member, mine, rfl⟩
    rcases List.mem_append.mp member with earlier | new
    · rcases linked.owned row earlier with ⟨owner, present, -⟩
      rw [mine, fresh] at present
      cases present
    · have taken := (no_conflicts_iff linked).mp free _ (mem_memberships.mp new).2.2 zoneId rival
      cases taken

theorem Unambiguous.update (unambiguous : Unambiguous tables) (linked : Linked tables)
    {zone : ShippingZone} {codes : Option (List String)}
    (checked : codes = none → zone.isActive = true →
      checkGovernorateConflicts tables zone.storeId (governorateCodes tables zone.id)
        (some zone.id) = [])
    (ok : updateZone tables zone codes = .ok after) : Unambiguous after := by
  rcases updateZone_ok ok with ⟨free, rfl⟩
  apply unambiguous.write zone.id
  · intro zoneId storeId code other covers
    exact (covers_others (fun row apart => replaced_others apart) other).mp covers
  · intro storeId code covers zoneId rival
    rcases covers_written.mp covers with ⟨active, rfl, row, member, mine, rfl⟩
    have taken : some zone.id = some zoneId := by
      cases codes with
      | none =>
          have listed := mem_governorateCodes.mpr ⟨row, member, mine, rfl⟩
          exact (no_conflicts_iff linked).mp (checked rfl active) _ listed zoneId rival
      | some codes =>
          rw [updateConflicts, if_pos active] at free
          rcases List.mem_append.mp member with earlier | new
          · exact absurd mine (of_decide_eq_true (List.mem_filter.mp earlier).2)
          · exact (no_conflicts_iff linked).mp free _ (mem_memberships.mp new).2.2 zoneId rival
    exact (Option.some.inj taken).symm

theorem Unambiguous.delete (unambiguous : Unambiguous tables) (zoneId : UUID) :
    Unambiguous (deleteZone tables zoneId) := by
  have shrinks (id storeId : UUID) (code : String)
      (covers : (deleteZone tables zoneId).Covers id storeId code) :
      tables.Covers id storeId code := by
    rcases covers with ⟨zone, found, active, store, covered⟩
    rw [get?_delete] at found
    split at found
    · rcases Option.map_eq_some_iff.mp found with ⟨old, present, rfl⟩
      cases active
    · exact ⟨zone, found, active, store, covered⟩
  intro storeId code first second coversFirst coversSecond
  exact unambiguous storeId code first second (shrinks _ _ _ coversFirst)
    (shrinks _ _ _ coversSecond)

theorem step_linked (linked : Linked tables) (label : ZoneLabel) : Linked (tables.step label) := by
  cases label with
  | createZone zone codes =>
      rw [step]
      cases called : createZone tables zone codes with
      | error error => exact linked
      | ok after => exact linked.create called
  | updateZone zoneId edit codes =>
      rw [step]
      cases read : getZone tables zoneId with
      | none => exact linked
      | some zone =>
          cases called : updateZone tables (edit.entity zone) codes with
          | error error =>
              simp only [called]
              exact linked
          | ok after =>
              simp only [called]
              have found : tables.zones.get? (edit.entity zone).id = some zone := by
                change tables.zones.get? zone.id = some zone
                rw [linked.keyed zoneId zone read]
                exact read
              exact linked.update found rfl called
  | deleteZone zoneId => exact linked.delete zoneId

theorem step_unambiguous (linked : Linked tables) (unambiguous : Unambiguous tables)
    {label : ZoneLabel} (checked : Checked tables label) : Unambiguous (tables.step label) := by
  cases label with
  | createZone zone codes =>
      rw [step]
      cases called : createZone tables zone codes with
      | error error => exact unambiguous
      | ok after => exact unambiguous.create linked called
  | updateZone zoneId edit codes =>
      rw [step]
      cases read : getZone tables zoneId with
      | none => exact unambiguous
      | some zone =>
          cases called : updateZone tables (edit.entity zone) codes with
          | error error =>
              simp only [called]
              exact unambiguous
          | ok after =>
              simp only [called]
              apply unambiguous.update linked _ called
              intro same active
              rcases same with rfl
              have key : (edit.entity zone).id = zoneId := linked.keyed zoneId zone read
              rw [key]
              exact checked active zone read
  | deleteZone zoneId => exact unambiguous.delete zoneId

/-- Activating a zone over a conflict makes the governorate ambiguous. -/
theorem checked_of_unambiguous (linked : Linked tables) {label : ZoneLabel}
    (after : Unambiguous (tables.step label)) : Checked tables label := by
  cases label with
  | createZone zone codes => trivial
  | deleteZone zoneId => trivial
  | updateZone zoneId edit codes =>
      cases codes with
      | some codes => trivial
      | none =>
          intro active zone read
          have key : zone.id = zoneId := linked.keyed zoneId zone read
          subst key
          have written : updateZone tables (edit.entity zone) none = .ok { tables with
              zones := tables.zones.set zone.id (edit.entity zone) } := by
            have present : (tables.zones.get? (edit.entity zone).id).isNone = false := by
              change (tables.zones.get? zone.id).isNone = false
              rw [show tables.zones.get? zone.id = some zone from read]
              rfl
            rw [updateZone, present]
            rfl
          rw [step, read] at after
          simp only [written] at after
          rw [no_conflicts_iff linked]
          intro code listed rival covers
          by_contra apart
          have other : rival ≠ (edit.entity zone).id := fun same => apart (congrArg some same.symm)
          have still : Covers { tables with
              zones := tables.zones.set (edit.entity zone).id (edit.entity zone)
              governorates := tables.governorates } rival zone.storeId code :=
            (covers_others (fun _ _ => Iff.rfl) other).mpr covers
          have own : Covers { tables with
              zones := tables.zones.set (edit.entity zone).id (edit.entity zone)
              governorates := tables.governorates } (edit.entity zone).id zone.storeId code :=
            covers_written.mpr ⟨active, rfl, mem_governorateCodes.mp listed⟩
          exact other (after zone.storeId code _ _ still own)

end Steps

end ShippingTables

/-- At most one active zone of a store covers a governorate all along exactly the runs in which
an update without governorates finds no conflict for those of the zone it activates. -/
theorem unambiguous_iff_checked (labels : List ZoneLabel) :
    Run.Always ShippingTables.step ShippingTables.Unambiguous {} labels ↔
      Run.Guarded ShippingTables.step ShippingTables.Checked {} labels := by
  apply Run.always_iff_guarded
    (I := fun tables => ShippingTables.Linked tables ∧ ShippingTables.Unambiguous tables)
  · intro tables label facts checked
    rcases facts with ⟨linked, unambiguous⟩
    exact ⟨ShippingTables.step_linked linked label,
      ShippingTables.step_unambiguous linked unambiguous checked⟩
  · exact fun tables kept => kept.2
  · exact fun tables label kept after => ShippingTables.checked_of_unambiguous kept.1 after
  · constructor
    · constructor
      · intro _ _ equal
        cases equal
      · intro _ equal
        cases equal
    · intro _ _ _ _ facts
      rcases facts with ⟨_, absent, _⟩
      cases absent

def cairoZone (id : UUID) : ShippingZone :=
  { id := id, storeId := 3, name := "Cairo" }

/-- A zone is deleted, its governorate goes to another zone, and it is switched on again. -/
def cairoReactivated : List ZoneLabel :=
  [.createZone (cairoZone 1) ["EG-C"],
    .deleteZone 1,
    .createZone (cairoZone 2) ["EG-C"],
    .updateZone 1 { name := "Cairo" } none]

/-- Both zones of Cairo are active then. -/
theorem reactivation_ambiguous :
    ¬ Run.Always ShippingTables.step ShippingTables.Unambiguous {} cairoReactivated := by
  intro always
  have same := always.last 3 "EG-C" 1 2 ⟨_, rfl, rfl, rfl, by decide⟩ ⟨_, rfl, rfl, rfl, by decide⟩
  cases same

end Numu.Shipping
