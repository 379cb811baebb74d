import RateGuard.IpirV2.Lowerable

/-!
# Order of worksheet rows

Calculations listed in another order mean the same, but the 0.1 evaluator orders them by
declared dependencies only. Whether both lists give the same premium therefore depends on
whether the declared order puts calculations after those they refer to in both of them.
-/

open DecimalFloat CalendarDate TopologicalSort

namespace RateGuard

/-- Premium of a package through the compatibility boundary. -/
def prices (sorter : Sorter String) (package : PackageV2) (risk : RiskInput) (date : Date)
    (transaction : TransactionType) (strict : Bool) : Option Decimal :=
  match lowerToV01 package with
  | .ok lowered =>
    premium (evaluatePackage sorter lowered.toPackageContent risk date transaction strict)
  | .error _ => none

/-- The package with its calculations listed in another order. -/
def PackageV2.listing (package : PackageV2) (calculations : List CalculationNodeV2) : PackageV2 :=
  { package with calculations := calculations }

/-- Whether the declared order of a package puts every active calculation after those it
refers to outside conditionals. -/
def Ordered (sorter : Sorter String) (package : PackageV2) (date : Date) : Prop :=
  ∀ nodes, package.declaredOrder sorter = some nodes →
    Follows (·.expression.strictRefs) date nodes

/-- Whether a package can be priced in some order of its calculations. -/
structure Priceable (sorter : Sorter String) (package : PackageV2) (risk : RiskInput)
    (date : Date) (transaction : TransactionType) (strict : Bool) : Prop where
  /-- No rounding is nested. -/
  rounds : package.roundsAtTop = true
  /-- The package has a premium. -/
  priced : ∃ amount, evaluateDirectly sorter package risk date transaction strict = .ok amount
  /-- Every active table has a factor. -/
  tables : ∀ found, known package risk date strict = .ok found → found.failed = []
  /-- Every conditional has a recordable value before the calculations. -/
  conditionals : ∀ found, known package risk date strict = .ok found →
    ∀ node ∈ package.calculations, ∀ conditional ∈ node.expression.conditionals,
      ∃ value, evaluateDirect found.context conditional = .ok value ∧ value.recordable = true

/-- A package is priced if it can be and the declared order is right. -/
theorem prices_iff {package : PackageV2} (valid : package.Valid) (sorter : Sorter String)
    (risk : RiskInput) (date : Date) (transaction : TransactionType) (strict : Bool)
    (amount : Decimal) :
    prices sorter package risk date transaction strict = some amount ↔
      Priceable sorter package risk date transaction strict ∧ Ordered sorter package date ∧
        evaluateDirectly sorter package risk date transaction strict = .ok amount := by
  have accepted := lowerToV01_isOk valid
  unfold prices
  cases lowers : lowerToV01 package with
  | error failed =>
    rw [lowers] at accepted
    constructor
    · exact fun same => by cases same
    · rintro ⟨priceable, _⟩
      rw [priceable.rounds] at accepted
      cases accepted
  | ok lowered =>
    rw [lowers] at accepted
    refine (lowered_premium_iff valid lowers sorter risk date transaction strict amount).trans ?_
    constructor
    · rintro ⟨direct, eager⟩
      obtain ⟨found, opens⟩ : ∃ found, known package risk date strict = .ok found := by
        unfold evaluateDirectly at direct
        split at direct
        · obtain ⟨found, opens, _⟩ := Outcome.bind_eq_ok direct
          exact ⟨found, opens⟩
        · cases direct
      exact ⟨⟨accepted.symm, ⟨amount, direct⟩, fun other same => (eager other same).tables,
        fun other same => (eager other same).conditionals⟩, (eager found opens).ordered, direct⟩
    · rintro ⟨priceable, ordered, direct⟩
      exact ⟨direct, fun found same =>
        ⟨priceable.tables found same, priceable.conditionals found same, ordered⟩⟩

/-- Runs along two orders that follow all references end alike. -/
theorem run_reordered {package : PackageV2} (valid : package.Valid) {date : Date}
    {one other : List CalculationNodeV2} (onePerm : one.Perm package.calculations)
    (otherPerm : other.Perm package.calculations)
    (follows : Follows (·.expression.refs) date other) {start solution : Context}
    (unknown : ∀ node ∈ package.calculations, start node.id = none)
    (ran : one.foldlM (addCalculation date) start = .ok solution) :
    other.foldlM (addCalculation date) start = .ok solution := by
  have distinct : ∀ {nodes : List CalculationNodeV2}, nodes.Perm package.calculations →
      (nodes.map (·.id)).Nodup := fun perm =>
    (perm.map _).nodup_iff.mpr valid.calculations_distinct
  have solves := (run_solves (distinct onePerm)
    (fun node member => unknown node (onePerm.mem_iff.mp member)) ran).1
  refine run_of_solution (distinct otherPerm) (solves.perm (onePerm.trans otherPerm.symm))
    (fun node member => unknown node (otherPerm.mem_iff.mp member))
    (fun node member ref referred => valid.irreflexive (otherPerm.mem_iff.mp member) referred)
    follows ?_
  exact fun node member context _ carries value => calculationValue_carried carries

section Listing

variable {package : PackageV2} {calculations : List CalculationNodeV2}

/-- Listing calculations in another order keeps the nodes. -/
theorem listing_nodeIds (perm : calculations.Perm package.calculations) :
    (package.listing calculations).nodeIds.Perm package.nodeIds := by
  unfold PackageV2.nodeIds PackageV2.listing
  exact ((List.Perm.refl _).append (perm.map _)).append_right _

/-- Listing calculations in another order keeps the dependencies. -/
theorem listing_derivedEdges (perm : calculations.Perm package.calculations) :
    (package.listing calculations).derivedEdges ⊆ package.derivedEdges := by
  intro edge member
  obtain ⟨node, belongs, member⟩ := List.mem_flatMap.mp member
  obtain ⟨dependency, noted, rfl⟩ := List.mem_map.mp member
  obtain ⟨referred, inside⟩ := List.mem_filter.mp noted
  have ids := perm.map (·.id)
  have kept : (package.calculations.map (·.id)).contains dependency = true :=
    List.contains_iff_mem.mpr (ids.mem_iff.mp (List.contains_iff_mem.mp inside))
  exact List.mem_flatMap.mpr ⟨node, perm.mem_iff.mp belongs, List.mem_map.mpr
    ⟨dependency, List.mem_filter.mpr ⟨referred, kept⟩, rfl⟩⟩

/-- Listing calculations in another order keeps a package valid. -/
theorem PackageV2.Valid.listing (valid : package.Valid)
    (perm : calculations.Perm package.calculations) : (package.listing calculations).Valid := by
  have ids := listing_nodeIds perm
  have formed := valid.wellFormed
  unfold PackageV2.nodesWellFormed at formed
  constructor
  · unfold PackageV2.nodesWellFormed
    rw [ids.all_eq]
    unfold PackageV2.listing
    dsimp only
    rw [perm.all_eq]
    exact formed
  · intro empty
    have none_left : calculations = [] := empty
    rw [none_left] at perm
    exact valid.calculations_nonempty perm.symm.eq_nil
  · exact valid.outputs_nonempty
  · exact ids.nodup_iff.mpr valid.ids_distinct
  · exact valid.cases_distinct
  · intro node member ref referred
    have resolved := valid.refs_resolve node (perm.mem_iff.mp member) ref referred
    cases ref with
    | node id => exact ids.mem_iff.mpr resolved
    | table id => exact resolved
  · intro node member dependency declared
    exact ids.mem_iff.mpr (valid.dependencies_resolve node (perm.mem_iff.mp member) _ declared)
  · exact fun output member => ids.mem_iff.mpr (valid.outputs_resolve output member)
  · obtain ⟨rank, rises⟩ := valid.acyclic
    exact ⟨rank, fun edge member => rises edge (listing_derivedEdges perm member)⟩
  · exact valid.covered
  · exact fun output member node inside =>
      valid.outputs_agree output member node (perm.mem_iff.mp inside)

/-- Listing calculations in another order keeps what the package means. -/
theorem evaluateDirectly_listing (valid : package.Valid)
    (perm : calculations.Perm package.calculations) (sorter : Sorter String) (risk : RiskInput)
    (date : Date) (transaction : TransactionType) (strict : Bool) {amount : Decimal}
    (direct : evaluateDirectly sorter package risk date transaction strict = .ok amount) :
    evaluateDirectly sorter (package.listing calculations) risk date transaction strict =
      .ok amount := by
  obtain ⟨one, onePerm, _, oneRuns⟩ := valid.direct_order sorter date
  obtain ⟨other, otherPerm, follows, otherRuns⟩ := (valid.listing perm).direct_order sorter date
  unfold evaluateDirectly at direct ⊢
  by_cases applies : package.applies date transaction = true
  · rw [if_pos applies] at direct
    rw [if_pos (show (package.listing calculations).applies date transaction = true from applies)]
    obtain ⟨found, opens, direct⟩ := Outcome.bind_eq_ok direct
    obtain ⟨context, ran, output⟩ := Outcome.bind_eq_ok direct
    rw [oneRuns] at ran
    have unknown := valid.unknown (known_within opens)
    have reordered := run_reordered valid onePerm (otherPerm.trans perm) follows unknown ran
    rw [show known (package.listing calculations) risk date strict = .ok found from opens]
    change (calculateDirect sorter (package.listing calculations) date found.context >>= _) = _
    rw [otherRuns, reordered]
    exact output
  · rw [if_neg applies] at direct
    cases direct

/-- Whether a package can be priced does not depend on the order of its calculations. -/
theorem Priceable.listing {sorter : Sorter String} {risk : RiskInput} {date : Date}
    {transaction : TransactionType} {strict : Bool} (valid : package.Valid)
    (perm : calculations.Perm package.calculations)
    (priceable : Priceable sorter package risk date transaction strict) :
    Priceable sorter (package.listing calculations) risk date transaction strict where
  rounds := by
    unfold PackageV2.roundsAtTop PackageV2.listing
    dsimp only
    rw [perm.all_eq]
    exact priceable.rounds
  priced := by
    obtain ⟨amount, direct⟩ := priceable.priced
    exact ⟨amount, evaluateDirectly_listing valid perm sorter risk date transaction strict direct⟩
  tables := priceable.tables
  conditionals := fun found opens node member =>
    priceable.conditionals found opens node (perm.mem_iff.mp member)

/-- Two listings of the calculations give the same premium exactly where the package cannot be
priced in any order or the declared order is right for both or for neither of them. -/
theorem listing_keeps_premium (valid : package.Valid)
    (perm : calculations.Perm package.calculations) (sorter : Sorter String) (risk : RiskInput)
    (date : Date) (transaction : TransactionType) (strict : Bool) :
    prices sorter (package.listing calculations) risk date transaction strict =
        prices sorter package risk date transaction strict ↔
      (Priceable sorter package risk date transaction strict →
        (Ordered sorter (package.listing calculations) date ↔ Ordered sorter package date)) := by
  have here := prices_iff valid sorter risk date transaction strict
  have there := prices_iff (valid.listing perm) sorter risk date transaction strict
  have back : Priceable sorter (package.listing calculations) risk date transaction strict →
      Priceable sorter package risk date transaction strict := by
    intro priceable
    have moved := Priceable.listing (valid.listing perm) perm.symm priceable
    exact moved
  constructor
  · intro same priceable
    obtain ⟨amount, direct⟩ := priceable.priced
    have moved := evaluateDirectly_listing valid perm sorter risk date transaction strict direct
    constructor
    · intro ordered
      have priced := (there amount).mpr ⟨priceable.listing valid perm, ordered, moved⟩
      rw [same] at priced
      exact ((here amount).mp priced).2.1
    · intro ordered
      have priced := (here amount).mpr ⟨priceable, ordered, direct⟩
      rw [← same] at priced
      exact ((there amount).mp priced).2.1
  · intro alike
    refine Option.ext fun amount => ?_
    rw [there amount, here amount]
    constructor
    · rintro ⟨priceable, ordered, moved⟩
      have direct := evaluateDirectly_listing (valid.listing perm)
        perm.symm sorter risk date transaction strict moved
      exact ⟨back priceable, (alike (back priceable)).mp ordered, direct⟩
    · rintro ⟨priceable, ordered, direct⟩
      exact ⟨priceable.listing valid perm, (alike priceable).mpr ordered,
        evaluateDirectly_listing valid perm sorter risk date transaction strict direct⟩

end Listing

/-- Premium that declares the base premium it refers to. -/
def declaredNode : CalculationNodeV2 where
  id := "premium"
  expression := .round (.reference "base") cents .halfUp
  dependsOn := ["base"]
  effectivePeriod := none

/-- Rows of a worksheet with declared dependencies may be listed in any order. -/
theorem listing_keeps_premium_declared :
    prices (byGenerations String)
        ((worksheet [baseNode, declaredNode]).listing [declaredNode, baseNode])
        ⟨[], List.nodup_nil⟩ worksheetDay .newBusiness false =
      prices (byGenerations String) (worksheet [baseNode, declaredNode])
        ⟨[], List.nodup_nil⟩ worksheetDay .newBusiness false := by
  have valid : (worksheet [baseNode, declaredNode]).Valid :=
    worksheet_valid _ (by decide +kernel) (List.cons_ne_nil _ _) (by decide +kernel)
      (by decide +kernel) (by decide +kernel) (by decide +kernel)
      ⟨worksheetRank, by decide +kernel⟩ (by decide +kernel)
  have follows : Follows (·.expression.strictRefs) worksheetDay [baseNode, declaredNode] :=
    List.pairwise_pair.mpr fun _ _ member => by cases member
  have first : (worksheet [baseNode, declaredNode]).declaredOrder (byGenerations String) =
    some [baseNode, declaredNode] := rfl
  have last : ((worksheet [baseNode, declaredNode]).listing
    [declaredNode, baseNode]).declaredOrder (byGenerations String) =
      some [baseNode, declaredNode] := rfl
  refine (listing_keeps_premium valid (List.Perm.swap _ _ _) _ _ _ _ _).mpr fun _ =>
    ⟨fun _ nodes ordered => ?_, fun _ nodes ordered => ?_⟩
  · rw [first] at ordered
    rw [← Option.some.inj ordered]
    exact follows
  · rw [last] at ordered
    rw [← Option.some.inj ordered]
    exact follows

/-- Premium that refers to the base premium without declaring it. -/
def roundedNode : CalculationNodeV2 where
  id := "premium"
  expression := .round (.reference "base") cents .halfUp
  dependsOn := []
  effectivePeriod := none

/-- A worksheet with the base premium first is valid. -/
theorem rounded_valid : (worksheet [baseNode, roundedNode]).Valid :=
  worksheet_valid _ (by decide +kernel) (List.cons_ne_nil _ _) (by decide +kernel)
    (by decide +kernel) (by decide +kernel) (by decide +kernel)
    ⟨worksheetRank, by decide +kernel⟩ (by decide +kernel)

/-- The order of the rows decides the premium: with the base premium last, it is unknown when the
premium refers to it. -/
theorem listing_loses_premium :
    ¬∀ (package : PackageV2) (calculations : List CalculationNodeV2), package.Valid →
      calculations.Perm package.calculations →
      ∀ (sorter : Sorter String) (risk : RiskInput) (date : Date) (transaction : TransactionType)
        (strict : Bool),
        prices sorter (package.listing calculations) risk date transaction strict =
          prices sorter package risk date transaction strict := by
  intro keeps
  have same := keeps (worksheet [baseNode, roundedNode]) [roundedNode, baseNode] rounded_valid
    (List.Perm.swap _ _ _) (byGenerations String) ⟨[], List.nodup_nil⟩ worksheetDay .newBusiness
    false
  have first : prices (byGenerations String) (worksheet [baseNode, roundedNode])
      ⟨[], List.nodup_nil⟩ worksheetDay .newBusiness false = some (.finite false 10000 (-2)) := by
    decide +kernel
  have last : prices (byGenerations String)
      ((worksheet [baseNode, roundedNode]).listing [roundedNode, baseNode])
      ⟨[], List.nodup_nil⟩ worksheetDay .newBusiness false = none := by decide +kernel
  rw [first, last] at same
  cases same

end RateGuard
