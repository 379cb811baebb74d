import RateGuard.Foundation.DateTime
import RateGuard.Foundation.KeyedList
import RateGuard.Foundation.Transition

/-!
# Tenant-scoped access to runs

The default operations of a tenant over the in-memory store: each looks at the unscoped operation's
result and keeps what the tenant owns. Listing looks at the newest runs of all tenants only, so that
it answers as the tenant's own store would where enough of the tenant's runs are among them.
-/

open CalendarDate

namespace RateGuard

/-- `MAX_TENANT_LIST_RECORDS`. -/
def maxTenantListRecords : Nat := 1000

/-- `AssuranceRunRecord` with the fields that the store does not look at as its content. -/
structure AssuranceRunRecord (π : Type) where
  /-- Run. -/
  runId : String
  /-- Tenant. -/
  tenantId : Option String
  /-- Creation. -/
  createdAt : Moment
  /-- Last update. -/
  updatedAt : Moment
  /-- Other fields. -/
  content : π

/-- `InMemoryRunStore._runs`: the records in the order of their keys, which are their runs. -/
structure RunStore (π : Type) where
  /-- Records. -/
  runs : List (AssuranceRunRecord π)
  /-- A run has one record. -/
  distinct : (runs.map (·.runId)).Nodup

variable {π : Type}

namespace AssuranceRunRecord

/-- Whether the creation has an offset. -/
def isAware (record : AssuranceRunRecord π) : Bool := record.createdAt.offset.isSome

/-- Creation on the scale that the comparison of two moments of one kind uses. -/
def createdKey (record : AssuranceRunRecord π) : Int :=
  record.createdAt.instant.getD record.createdAt.clock.microseconds

/-- Whether a record is not older than another one. -/
def NotOlder (one other : AssuranceRunRecord π) : Prop := other.createdKey ≤ one.createdKey

instance : DecidableRel (NotOlder (π := π)) := fun _ _ => inferInstanceAs (Decidable (_ ≤ _))

instance : IsTrans (AssuranceRunRecord π) NotOlder := ⟨fun _ _ _ one two => le_trans two one⟩

instance : Std.Total (NotOlder (π := π)) := ⟨fun _ _ => le_total _ _⟩

end AssuranceRunRecord

/-- Whether some moments have an offset and others have none, which cannot be compared. -/
def mixedZones (records : List (AssuranceRunRecord π)) : Bool :=
  records.any (·.isAware) && records.any (!·.isAware)

/-- A comparison of moments that fails. -/
inductive ComparisonFault where
  | typeError
  deriving DecidableEq

namespace RunStore

/-- `get_run`. -/
def getRun (store : RunStore π) (runId : String) : Option (AssuranceRunRecord π) :=
  store.runs.find? (·.runId = runId)

/-- `list_runs`. -/
def listRuns (store : RunStore π) (limit : Nat) :
    Except ComparisonFault (List (AssuranceRunRecord π)) :=
  if mixedZones store.runs then .error .typeError
  else .ok ((store.runs.insertionSort AssuranceRunRecord.NotOlder).take limit)

/-- The records after an assignment to the key of a record. -/
def assigned (runs : List (AssuranceRunRecord π)) (record : AssuranceRunRecord π) :
    List (AssuranceRunRecord π) :=
  if runs.any (·.runId = record.runId) then
    runs.map fun stored => if stored.runId = record.runId then record else stored
  else runs ++ [record]

/-- An assignment keeps one record for each run. -/
theorem assigned_distinct {runs : List (AssuranceRunRecord π)}
    (distinct : (runs.map (·.runId)).Nodup) (record : AssuranceRunRecord π) :
    ((assigned runs record).map (·.runId)).Nodup := by
  unfold assigned
  by_cases known : runs.any (·.runId = record.runId) = true
  · have keys : (runs.map fun stored => if stored.runId = record.runId then record else stored).map
        (·.runId) = runs.map (·.runId) := by
      rw [List.map_map]
      refine List.map_congr_left fun stored _ => ?_
      rw [Function.comp_apply]
      split
      · next same => exact same.symm
      · rfl
    rw [if_pos known, keys]
    exact distinct
  · rw [if_neg known, List.map_append]
    refine List.nodup_append.mpr ⟨distinct, List.nodup_singleton _, ?_⟩
    rintro first inside second last rfl
    obtain ⟨stored, member, same⟩ := List.mem_map.mp inside
    refine known (List.any_eq_true.mpr ⟨stored, member, ?_⟩)
    rw [same, List.mem_singleton.mp last]
    exact decide_eq_true rfl

/-- `update_run` at a time. -/
def updateRun (store : RunStore π) (record : AssuranceRunRecord π) (now : Moment) :
    RunStore π :=
  ⟨assigned store.runs { record with updatedAt := now }, assigned_distinct store.distinct _⟩

/-- `delete_run`. -/
def deleteRun (store : RunStore π) (runId : String) : Bool × RunStore π :=
  (store.runs.any (·.runId = runId),
    ⟨store.runs.filter (·.runId ≠ runId), store.distinct.sublist (List.filter_sublist.map _)⟩)

end RunStore

/-- `owned_by`. -/
def ownedBy (record : Option (AssuranceRunRecord π)) (tenantId : String) (includeLegacy : Bool) :
    Bool :=
  match record with
  | none => false
  | some record =>
    if tenantId = "" then false
    else
      match record.tenantId with
      | none => includeLegacy
      | some owner => if owner = "" then includeLegacy else owner = tenantId

namespace RunStore

/-- `get_run_for_tenant`. -/
def getRunForTenant (store : RunStore π) (runId tenantId : String) (includeLegacy : Bool) :
    Option (AssuranceRunRecord π) :=
  if ownedBy (store.getRun runId) tenantId includeLegacy then store.getRun runId else none

/-- `list_runs_for_tenant`. -/
def listRunsForTenant (store : RunStore π) (tenantId : String) (limit : Int)
    (includeLegacy : Bool) : Except ComparisonFault (List (AssuranceRunRecord π)) := do
  let limit := max 1 (min limit maxTenantListRecords)
  let runs ← store.listRuns maxTenantListRecords
  let mine := runs.filter fun record => ownedBy (some record) tenantId includeLegacy
  return mine.take limit.toNat

/-- `update_run_for_tenant` at a time. -/
def updateRunForTenant (store : RunStore π) (record : AssuranceRunRecord π) (tenantId : String)
    (includeLegacy : Bool) (now : Moment) : Option (AssuranceRunRecord π) × RunStore π :=
  match store.getRun record.runId with
  | none => (none, store)
  | some existing =>
    if ownedBy (some existing) tenantId includeLegacy then
      let kept := { record with tenantId := existing.tenantId }
      (some { kept with updatedAt := now }, store.updateRun kept now)
    else (none, store)

/-- `delete_run_for_tenant`. -/
def deleteRunForTenant (store : RunStore π) (runId tenantId : String) (includeLegacy : Bool) :
    Bool × RunStore π :=
  if ownedBy (store.getRun runId) tenantId includeLegacy then store.deleteRun runId
  else (false, store)

end RunStore

/-- Operations of a tenant. -/
inductive TenantOperation (π : Type) where
  | get (runId : String)
  | list (limit : Int)
  | update (record : AssuranceRunRecord π) (now : Moment)
  | delete (runId : String)

/-- What an operation of a tenant returns. -/
inductive TenantAnswer (π : Type) where
  | record (found : Option (AssuranceRunRecord π))
  | listing (found : Except ComparisonFault (List (AssuranceRunRecord π)))
  | deleted (found : Bool)

/-- A tenant, and whether the records without a tenant are assigned to it. -/
structure TenantScope where
  /-- Tenant. -/
  tenantId : String
  /-- Whether it has the records without a tenant. -/
  includeLegacy : Bool

variable (scope : TenantScope)

/-- Whether a record is in a scope. -/
def TenantScope.owns (record : AssuranceRunRecord π) : Bool :=
  ownedBy (some record) scope.tenantId scope.includeLegacy

/-- What an operation of a tenant answers. -/
def TenantScope.answer (store : RunStore π) : TenantOperation π → TenantAnswer π
  | .get runId => .record (store.getRunForTenant runId scope.tenantId scope.includeLegacy)
  | .list limit => .listing (store.listRunsForTenant scope.tenantId limit scope.includeLegacy)
  | .update record now =>
    .record (store.updateRunForTenant record scope.tenantId scope.includeLegacy now).1
  | .delete runId => .deleted (store.deleteRunForTenant runId scope.tenantId scope.includeLegacy).1

/-- The store after an operation of a tenant. -/
def TenantScope.next (store : RunStore π) : TenantOperation π → RunStore π
  | .get _ | .list _ => store
  | .update record now =>
    (store.updateRunForTenant record scope.tenantId scope.includeLegacy now).2
  | .delete runId => (store.deleteRunForTenant runId scope.tenantId scope.includeLegacy).2

/-- The store of the records in a scope. -/
def TenantScope.own (store : RunStore π) : RunStore π :=
  ⟨store.runs.filter scope.owns, store.distinct.sublist (List.filter_sublist.map _)⟩

/-- The records outside a scope. -/
def TenantScope.foreign (store : RunStore π) : List (AssuranceRunRecord π) :=
  store.runs.filter (!scope.owns ·)

section Views

variable {scope} {store : RunStore π}

/-- Stores with the same records are the same. -/
theorem RunStore.eq_of_runs {one other : RunStore π} (same : one.runs = other.runs) :
    one = other := by
  cases one
  cases other
  cases same
  rfl

/-- The tenant's own store finds what the store finds, where the tenant owns it. -/
theorem getRun_own (runId : String) :
    (scope.own store).getRun runId = (store.getRun runId).filter scope.owns :=
  KeyedList.find_filter store.distinct scope.owns runId

/-- Getting a run gives the record that the tenant owns. -/
theorem getRunForTenant_eq (runId : String) :
    store.getRunForTenant runId scope.tenantId scope.includeLegacy =
      (store.getRun runId).filter scope.owns := by
  unfold RunStore.getRunForTenant
  cases store.getRun runId with
  | none => rfl
  | some record => rfl

/-- The record that is found under a run is a record of the run. -/
theorem getRun_some {runId : String} {existing : AssuranceRunRecord π}
    (found : store.getRun runId = some existing) :
    existing ∈ store.runs ∧ existing.runId = runId :=
  ⟨List.mem_of_find?_eq_some found, by simpa using List.find?_some found⟩

/-- The record that is found under a run is the only one of the run. -/
theorem eq_of_getRun {runId : String} {existing stored : AssuranceRunRecord π}
    (found : store.getRun runId = some existing) (member : stored ∈ store.runs)
    (same : stored.runId = runId) : stored = existing := by
  obtain ⟨inside, key⟩ := getRun_some found
  exact KeyedList.eq_of_key store.distinct member inside (same.trans key.symm)

/-- An owned record that is replaced stays with its owner, and the others stay as they are. -/
theorem replaced_owns {existing written : AssuranceRunRecord π}
    (found : store.getRun written.runId = some existing)
    (tenant : written.tenantId = existing.tenantId) {stored : AssuranceRunRecord π}
    (member : stored ∈ store.runs) :
    scope.owns (if stored.runId = written.runId then written else stored) = scope.owns stored := by
  split
  · next same =>
    rw [eq_of_getRun found member same]
    simp only [TenantScope.owns, ownedBy, tenant]
  · rfl

/-- Replacing the record of a stored run. -/
theorem assigned_of_getRun {existing written : AssuranceRunRecord π}
    (found : store.getRun written.runId = some existing) :
    RunStore.assigned store.runs written =
      store.runs.map fun stored => if stored.runId = written.runId then written else stored := by
  obtain ⟨inside, key⟩ := getRun_some found
  exact if_pos (List.any_eq_true.mpr ⟨existing, inside, decide_eq_true key⟩)

/-- The owned and the foreign records are filtered from a replacement as they are replaced. -/
theorem filter_assigned {existing written : AssuranceRunRecord π}
    (found : store.getRun written.runId = some existing)
    (tenant : written.tenantId = existing.tenantId)
    {keep : AssuranceRunRecord π → Bool} (kept : ∀ one other : AssuranceRunRecord π,
      scope.owns one = scope.owns other → keep one = keep other) :
    (RunStore.assigned store.runs written).filter keep = (store.runs.filter keep).map
      fun stored => if stored.runId = written.runId then written else stored := by
  rw [assigned_of_getRun found, List.filter_map]
  congr 1
  refine List.filter_congr fun stored member => ?_
  exact kept _ _ (replaced_owns found tenant member)

/-- Updating is done where the record that is found is owned. -/
theorem updateRunForTenant_eq (record : AssuranceRunRecord π) (now : Moment) :
    store.updateRunForTenant record scope.tenantId scope.includeLegacy now =
      match (store.getRun record.runId).filter scope.owns with
      | none => (none, store)
      | some existing => (some { record with tenantId := existing.tenantId, updatedAt := now },
          store.updateRun { record with tenantId := existing.tenantId } now) := by
  unfold RunStore.updateRunForTenant
  cases store.getRun record.runId with
  | none => rfl
  | some existing =>
    by_cases owned : scope.owns existing = true
    · rw [Option.filter_some_pos owned]
      exact if_pos owned
    · rw [Option.filter_some_neg (by simpa using owned)]
      exact if_neg owned

/-- Deleting is done where the record that is found is owned. -/
theorem deleteRunForTenant_eq (runId : String) :
    store.deleteRunForTenant runId scope.tenantId scope.includeLegacy =
      match (store.getRun runId).filter scope.owns with
      | none => (false, store)
      | some _ => store.deleteRun runId := by
  unfold RunStore.deleteRunForTenant
  cases store.getRun runId with
  | none => rfl
  | some existing =>
    by_cases owned : scope.owns existing = true
    · rw [Option.filter_some_pos owned]
      exact if_pos owned
    · rw [Option.filter_some_neg (by simpa using owned)]
      exact if_neg owned

/-- A record that is found and kept is found. -/
theorem getRun_of_filter {runId : String} {existing : AssuranceRunRecord π}
    (found : (store.getRun runId).filter scope.owns = some existing) :
    store.getRun runId = some existing ∧ scope.owns existing = true :=
  Option.filter_eq_some_iff.mp found

/-- The operations of a tenant take the tenant's own store to the tenant's own store. -/
theorem own_next (scope : TenantScope) (store : RunStore π) (operation : TenantOperation π) :
    scope.own (scope.next store operation) = scope.next (scope.own store) operation := by
  cases operation with
  | get runId => rfl
  | list limit => rfl
  | update record now =>
    have view : (scope.own store).getRun record.runId =
        (store.getRun record.runId).filter scope.owns := getRun_own _
    unfold TenantScope.next
    dsimp only
    rw [updateRunForTenant_eq, updateRunForTenant_eq, view, Option.filter_filter]
    simp only [Bool.and_self]
    cases found : (store.getRun record.runId).filter scope.owns with
    | none => rfl
    | some existing =>
      rw [found] at view
      let written : AssuranceRunRecord π :=
        { record with tenantId := existing.tenantId, updatedAt := now }
      have stored : store.getRun written.runId = some existing := (getRun_of_filter found).1
      have own : (scope.own store).getRun written.runId = some existing := view
      refine RunStore.eq_of_runs ?_
      exact (filter_assigned stored rfl fun _ _ same => same).trans (assigned_of_getRun own).symm
  | delete runId =>
    have view : (scope.own store).getRun runId = (store.getRun runId).filter scope.owns :=
      getRun_own _
    unfold TenantScope.next
    dsimp only
    rw [deleteRunForTenant_eq, deleteRunForTenant_eq, view, Option.filter_filter]
    simp only [Bool.and_self]
    cases found : (store.getRun runId).filter scope.owns with
    | none => rfl
    | some existing =>
      refine RunStore.eq_of_runs ?_
      exact List.filter_comm _ _ _

/-- The operations of a tenant leave the records of the others. -/
theorem foreign_next (scope : TenantScope) (store : RunStore π) (operation : TenantOperation π) :
    scope.foreign (scope.next store operation) = scope.foreign store := by
  cases operation with
  | get runId => rfl
  | list limit => rfl
  | update record now =>
    unfold TenantScope.next
    dsimp only
    rw [updateRunForTenant_eq]
    cases found : (store.getRun record.runId).filter scope.owns with
    | none => rfl
    | some existing =>
      let written : AssuranceRunRecord π :=
        { record with tenantId := existing.tenantId, updatedAt := now }
      have stored : store.getRun written.runId = some existing := (getRun_of_filter found).1
      have owned := (getRun_of_filter found).2
      unfold TenantScope.foreign
      refine (filter_assigned stored rfl fun _ _ same => congrArg (!·) same).trans ?_
      refine (List.map_congr_left fun other member => ?_).trans (List.map_id' _)
      obtain ⟨inside, alien⟩ := List.mem_filter.mp member
      refine if_neg fun same => ?_
      rw [eq_of_getRun stored inside same, owned] at alien
      cases alien
  | delete runId =>
    unfold TenantScope.next
    dsimp only
    rw [deleteRunForTenant_eq]
    cases found : (store.getRun runId).filter scope.owns with
    | none => rfl
    | some existing =>
      obtain ⟨stored, owned⟩ := getRun_of_filter found
      unfold TenantScope.foreign RunStore.deleteRun
      rw [List.filter_filter]
      refine List.filter_congr fun other member => ?_
      by_cases same : other.runId = runId
      · rw [eq_of_getRun stored member same, owned]
        rfl
      · simp [same]

/-- A part of a comparable list is comparable. -/
theorem mixedZones_filter {records : List (AssuranceRunRecord π)}
    {keep : AssuranceRunRecord π → Bool} (mixed : mixedZones (records.filter keep) = true) :
    mixedZones records = true := by
  unfold mixedZones at mixed ⊢
  simp only [Bool.and_eq_true, List.any_eq_true, List.mem_filter] at mixed ⊢
  obtain ⟨⟨aware, inside, one⟩, ⟨naive, member, two⟩⟩ := mixed
  exact ⟨⟨aware, inside.1, one⟩, ⟨naive, member.1, two⟩⟩

/-- The front of a list is the front of a longer one where the list is long enough. -/
theorem take_eq_take_append (count : Nat) (front back : List (AssuranceRunRecord π)) :
    front.take count = (front ++ back).take count ↔
      min count (front ++ back).length ≤ front.length := by
  rw [List.take_append, eq_comm, List.append_right_eq_self, List.take_eq_nil_iff,
    List.length_append]
  constructor
  · rintro (enough | rfl)
    · omega
    · exact min_le_right _ _
  · intro enough
    rcases Nat.eq_zero_or_pos back.length with none | some
    · exact .inr (List.length_eq_zero_iff.mp none)
    · exact .inl (by omega)

end Views

/-- Number of records that a listing shows at most. -/
def shownRecords (limit : Int) : Nat := (max 1 (min limit maxTenantListRecords)).toNat

/-- Whether a listing answers for the tenant alone: it compares the moments of all tenants where it
compares the tenant's own, and finds as many of the tenant's records as it shows among the newest
ones of all tenants. -/
def TenantScope.Reaches (store : RunStore π) (limit : Int) : Prop :=
  (mixedZones store.runs = true → mixedZones (scope.own store).runs = true) ∧
    (mixedZones store.runs = false → min (shownRecords limit) (scope.own store).runs.length ≤
      ((store.runs.insertionSort AssuranceRunRecord.NotOlder).take maxTenantListRecords).countP
        scope.owns)

/-- Whether an operation answers for the tenant alone. -/
def TenantScope.Alone (store : RunStore π) : TenantOperation π → Prop
  | .list limit => scope.Reaches store limit
  | .get _ | .update _ _ | .delete _ => True

/-- A listing shows at most as many records as it looks at. -/
theorem shownRecords_le (limit : Int) : shownRecords limit ≤ maxTenantListRecords := by
  unfold shownRecords maxTenantListRecords
  omega

/-- A listing of comparable records. -/
theorem listRunsForTenant_ok {store : RunStore π} (plain : mixedZones store.runs = false)
    (limit : Int) : store.listRunsForTenant scope.tenantId limit scope.includeLegacy =
      .ok ((((store.runs.insertionSort AssuranceRunRecord.NotOlder).take
        maxTenantListRecords).filter scope.owns).take (shownRecords limit)) := by
  unfold RunStore.listRunsForTenant RunStore.listRuns
  rw [plain]
  rfl

/-- A listing of records that cannot be compared. -/
theorem listRunsForTenant_error {store : RunStore π} (mixed : mixedZones store.runs = true)
    (limit : Int) :
    store.listRunsForTenant scope.tenantId limit scope.includeLegacy = .error .typeError := by
  unfold RunStore.listRunsForTenant RunStore.listRuns
  rw [mixed]
  rfl

/-- A listing answers as the one of the tenant's own store exactly where it reaches enough. -/
theorem listRunsForTenant_own_iff (store : RunStore π) (limit : Int) :
    store.listRunsForTenant scope.tenantId limit scope.includeLegacy =
      (scope.own store).listRunsForTenant scope.tenantId limit scope.includeLegacy ↔
      scope.Reaches store limit := by
  unfold TenantScope.Reaches
  cases zones : mixedZones store.runs with
  | true =>
    rw [listRunsForTenant_error scope zones]
    cases own : mixedZones (scope.own store).runs with
    | true => simp [listRunsForTenant_error scope own]
    | false => simp [listRunsForTenant_ok scope own]
  | false =>
    have own : mixedZones (scope.own store).runs = false := by
      refine Bool.eq_false_iff.mpr fun mixed => ?_
      rw [mixedZones_filter mixed] at zones
      cases zones
    rw [listRunsForTenant_ok scope zones, listRunsForTenant_ok scope own]
    have sorted : (scope.own store).runs.insertionSort AssuranceRunRecord.NotOlder =
        (store.runs.insertionSort AssuranceRunRecord.NotOlder).filter scope.owns :=
      (KeyedList.filter_insertionSort _ _ _).symm
    have count : (scope.own store).runs.length =
        ((store.runs.insertionSort AssuranceRunRecord.NotOlder).filter scope.owns).length := by
      rw [← sorted, List.length_insertionSort]
    rw [sorted, count]
    generalize store.runs.insertionSort AssuranceRunRecord.NotOlder = newest
    have parts : newest.filter scope.owns = (newest.take maxTenantListRecords).filter scope.owns ++
        (newest.drop maxTenantListRecords).filter scope.owns := by
      rw [← List.filter_append, List.take_append_drop]
    have shown : ((newest.filter scope.owns).take maxTenantListRecords).filter scope.owns =
        (newest.filter scope.owns).take maxTenantListRecords :=
      List.filter_eq_self.mpr fun record member =>
        (List.mem_filter.mp (List.mem_of_mem_take member)).2
    rw [shown, List.take_take, min_eq_left (shownRecords_le limit), List.countP_eq_length_filter]
    simp only [Except.ok.injEq, Bool.false_eq_true, false_implies, true_and, true_implies]
    rw [parts]
    exact take_eq_take_append _ _ _

/-- An operation answers as it does in the tenant's own store. -/
theorem answer_own {store : RunStore π} {operation : TenantOperation π}
    (alone : scope.Alone store operation) :
    scope.answer store operation = scope.answer (scope.own store) operation := by
  cases operation with
  | get runId =>
    unfold TenantScope.answer
    dsimp only
    rw [getRunForTenant_eq, getRunForTenant_eq, getRun_own, Option.filter_filter]
    simp only [Bool.and_self]
  | list limit =>
    exact congrArg TenantAnswer.listing ((listRunsForTenant_own_iff scope store limit).mpr alone)
  | update record now =>
    unfold TenantScope.answer
    dsimp only
    rw [updateRunForTenant_eq, updateRunForTenant_eq, getRun_own, Option.filter_filter]
    simp only [Bool.and_self]
    cases (store.getRun record.runId).filter scope.owns <;> rfl
  | delete runId =>
    have view : (scope.own store).getRun runId = (store.getRun runId).filter scope.owns :=
      getRun_own _
    unfold TenantScope.answer
    dsimp only
    rw [deleteRunForTenant_eq, deleteRunForTenant_eq, view, Option.filter_filter]
    simp only [Bool.and_self]
    cases found : (store.getRun runId).filter scope.owns with
    | none => rfl
    | some existing =>
      rw [found] at view
      have known : ∀ {held : RunStore π}, held.getRun runId = some existing →
          (held.deleteRun runId).1 = true := by
        intro held stored
        obtain ⟨inside, key⟩ := getRun_some stored
        exact List.any_eq_true.mpr ⟨existing, inside, decide_eq_true key⟩
      exact congrArg TenantAnswer.deleted
        ((known (getRun_of_filter found).1).trans (known view).symm)

/-- A tenant's operations answer alike over two stores that agree on the tenant's records, where
each listing answers for the tenant alone; a listing does so exactly where it reaches enough of the
tenant's records. No operation changes the records of others. -/
theorem tenants_do_not_interfere (scope : TenantScope) :
    (∀ one other : RunStore π, scope.own one = scope.own other →
      ∀ operations : List (TenantOperation π),
        (Transition.Along scope.next scope.Alone one operations →
          Transition.Along scope.next scope.Alone other operations →
          Transition.responses scope.answer scope.next one operations =
            Transition.responses scope.answer scope.next other operations) ∧
        scope.own (Transition.run scope.next one operations) =
          scope.own (Transition.run scope.next other operations) ∧
        scope.foreign (Transition.run scope.next one operations) = scope.foreign one) ∧
    ∀ (store : RunStore π) (limit : Int),
      store.listRunsForTenant scope.tenantId limit scope.includeLegacy =
        (scope.own store).listRunsForTenant scope.tenantId limit scope.includeLegacy ↔
        scope.Reaches store limit := by
  refine ⟨fun one other agree operations => ⟨fun first second => ?_, ?_, ?_⟩,
    listRunsForTenant_own_iff scope⟩
  · have answers : ∀ (store : RunStore π) (operation : TenantOperation π),
        scope.Alone store operation →
          scope.answer store operation = scope.answer (scope.own store) operation :=
      fun _ _ alone => answer_own scope alone
    rw [Transition.responses_view (own_next scope) answers first,
      Transition.responses_view (own_next scope) answers second, agree]
  · rw [Transition.run_view (own_next scope), Transition.run_view (own_next scope), agree]
  · exact Transition.run_invariant (fun store => scope.foreign store = scope.foreign one)
      (fun store operation kept => (foreign_next scope store operation).trans kept) rfl operations

instance (store : RunStore π) (limit : Int) : Decidable (scope.Reaches store limit) :=
  inferInstanceAs (Decidable (_ ∧ _))

instance (store : RunStore π) : ∀ operation, Decidable (scope.Alone store operation)
  | .list limit => inferInstanceAs (Decidable (scope.Reaches store limit))
  | .get _ | .update _ _ | .delete _ => .isTrue trivial

/-- The year of the samples is one. -/
theorem sampleYear_valid : 1 ≤ 2026 ∧ 2026 ≤ 9999 := by decide

/-- A year has a first day. -/
theorem sampleDay_valid : 1 ≤ 1 ∧ 1 ≤ daysInMonth 2026 1 := by decide

/-- A full hour has no minutes and seconds. -/
theorem fullHour_valid : 0 < 60 := by decide

/-- A full hour has no microseconds. -/
theorem fullSecond_valid : 0 < 1000000 := by decide

/-- A full hour of the first day of a year in universal time. -/
def fullHour (hour : Fin 24) : Moment :=
  ⟨⟨⟨2026, 1, 1, sampleYear_valid, sampleDay_valid⟩, ⟨hour, 0, 0, 0, hour.isLt, fullHour_valid,
    fullHour_valid, fullSecond_valid⟩⟩, some 0⟩

/-- A run of the first tenant. -/
def ownRun : AssuranceRunRecord Unit := ⟨"A", some "tenant-a", fullHour 1, fullHour 1, ()⟩

/-- Later runs of the second tenant. -/
def foreignRun (number : Nat) : AssuranceRunRecord Unit :=
  ⟨String.ofList ('B' :: Text.digitsOf number), some "tenant-b", fullHour 2, fullHour 2, ()⟩

/-- The runs of the second tenant are different. -/
theorem foreignRun_injective : Function.Injective fun number => (foreignRun number).runId := by
  intro first second same
  have digits := (List.cons.inj (String.ofList_injective same)).2
  rw [← Text.numeral_digitsOf first, digits, Text.numeral_digitsOf]

/-- A store with a run of the first tenant behind later runs of the second one. -/
def crowdedStore (others : Nat) : RunStore Unit where
  runs := (List.range others).map foreignRun ++ [ownRun]
  distinct := by
    rw [List.map_append, List.map_map]
    refine List.nodup_append.mpr ⟨List.nodup_range.map foreignRun_injective,
      List.nodup_singleton _, ?_⟩
    rintro first inside second last rfl
    obtain ⟨number, -, same⟩ := List.mem_map.mp inside
    rw [List.mem_singleton.mp last] at same
    have heads := (List.cons.inj (String.ofList_injective same)).1
    exact absurd heads (by decide)

/-- The first tenant. -/
def tenantA : TenantScope := ⟨"tenant-a", false⟩

/-- Listing, getting, updating and deleting the run, and deleting a run of the other tenant. -/
def tenantOperations : List (TenantOperation Unit) :=
  [.list 50, .get "A", .update { ownRun with tenantId := some "tenant-b" } (fullHour 3),
    .delete (foreignRun 0).runId, .delete "A", .list 50]

/-- The operations of the first tenant do not depend on two runs of the second one. -/
theorem crowdedStore_undisturbed :
    Transition.responses tenantA.answer tenantA.next (crowdedStore 2) tenantOperations =
      Transition.responses tenantA.answer tenantA.next (crowdedStore 0) tenantOperations :=
  (((tenants_do_not_interfere tenantA).1 (crowdedStore 2) (crowdedStore 0)
    (RunStore.eq_of_runs rfl)) tenantOperations).1 (by decide +kernel) (by decide +kernel)

/-- In the crowded store the first tenant's run is listed behind all others. -/
theorem crowdedStore_sorted (others : Nat) :
    (crowdedStore others).runs.insertionSort AssuranceRunRecord.NotOlder =
      (crowdedStore others).runs := by
  refine List.Pairwise.insertionSort_eq (List.pairwise_append.mpr ⟨?_, ?_, ?_⟩)
  · exact List.pairwise_map.mpr (List.pairwise_of_forall fun _ _ => le_refl _)
  · exact List.pairwise_singleton _ _
  · intro first inside second last
    obtain ⟨number, -, rfl⟩ := List.mem_map.mp inside
    rw [List.mem_singleton.mp last]
    have later : AssuranceRunRecord.createdKey ownRun ≤
        AssuranceRunRecord.createdKey (foreignRun 0) := by decide +kernel
    exact later

/-- The first tenant owns none of the other runs. -/
theorem foreignRun_foreign (others : Nat) :
    ((List.range others).map foreignRun).filter tenantA.owns = [] := by
  refine List.filter_eq_nil_iff.mpr fun record member => ?_
  obtain ⟨number, -, rfl⟩ := List.mem_map.mp member
  exact Bool.false_ne_true

/-- The first tenant owns its run only. -/
theorem crowdedStore_own (others : Nat) : (tenantA.own (crowdedStore others)).runs = [ownRun] := by
  change ((List.range others).map foreignRun ++ [ownRun]).filter tenantA.owns = [ownRun]
  rw [List.filter_append, foreignRun_foreign]
  rfl

/-- All moments of the crowded store can be compared. -/
theorem crowdedStore_plain (others : Nat) : mixedZones (crowdedStore others).runs = false := by
  have aware : (crowdedStore others).runs.any (!·.isAware) = false := by
    refine List.any_eq_false.mpr fun record member => ?_
    rcases List.mem_append.mp member with other | own
    · obtain ⟨number, -, rfl⟩ := List.mem_map.mp other
      exact Bool.false_ne_true
    · rw [List.mem_singleton.mp own]
      exact Bool.false_ne_true
  rw [mixedZones, aware, Bool.and_false]

/-- The first tenant's listing is empty where the other runs fill what is looked at. -/
theorem crowdedStore_hidden (others : Nat) (full : others = maxTenantListRecords) (limit : Int) :
    (crowdedStore others).listRunsForTenant tenantA.tenantId limit tenantA.includeLegacy =
      .ok [] := by
  rw [listRunsForTenant_ok tenantA (crowdedStore_plain others), crowdedStore_sorted]
  unfold crowdedStore
  dsimp only
  have front : ((List.range others).map foreignRun ++ [ownRun]).take maxTenantListRecords =
      (List.range others).map foreignRun :=
    List.take_left' (by rw [List.length_map, List.length_range, full])
  rw [front, foreignRun_foreign, List.take_nil]

/-- A thousand later runs of the second tenant hide the run of the first one from its listing. -/
theorem crowdedStore_interferes :
    ¬∀ (scope : TenantScope) (one other : RunStore Unit), scope.own one = scope.own other →
      ∀ operations : List (TenantOperation Unit),
        Transition.responses scope.answer scope.next one operations =
            Transition.responses scope.answer scope.next other operations ∧
          scope.foreign (Transition.run scope.next one operations) = scope.foreign one := by
  intro isolated
  have own : tenantA.own (crowdedStore 1000) = tenantA.own (crowdedStore 0) :=
    RunStore.eq_of_runs ((crowdedStore_own 1000).trans (crowdedStore_own 0).symm)
  have answers := (isolated tenantA _ _ own [.list 50]).1
  have same : TenantAnswer.listing ((crowdedStore 1000).listRunsForTenant tenantA.tenantId 50
      tenantA.includeLegacy) = .listing ((crowdedStore 0).listRunsForTenant tenantA.tenantId 50
      tenantA.includeLegacy) := (List.cons.inj answers).1
  have single : (crowdedStore 0).listRunsForTenant tenantA.tenantId 50 tenantA.includeLegacy =
      .ok [ownRun] := rfl
  rw [crowdedStore_hidden 1000 rfl, single] at same
  injection same with lists
  cases lists

end RateGuard
