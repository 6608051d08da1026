import VntClient.Outbound
import VntClient.RouteOrder

/-!
`nat/mod.rs`: the routes to subnets behind other nodes. A lookup takes the first network
that contains the address, so it is a longest match as long as the table is in order of
falling prefix length.
-/

namespace VntClient

section FirstBest
variable {Item Rank : Type} [LinearOrder Rank] (rank : Item → Rank) (hit : Item → Bool)

/-- The first of the hits that have the lowest rank. -/
def FirstBest (items : List Item) (best : Item) : Prop :=
  ∃ front back, items = front ++ best :: back ∧ hit best = true ∧
    (∀ other ∈ front, hit other = true → rank best < rank other) ∧
    ∀ other ∈ back, hit other = true → rank best ≤ rank other

variable {rank hit} {item best other : Item} {items rest : List Item}

theorem FirstBest.mem (first : FirstBest rank hit items best) : best ∈ items := by
  obtain ⟨front, back, rfl, _⟩ := first
  simp

theorem FirstBest.hits (first : FirstBest rank hit items best) : hit best = true := by
  obtain ⟨_, _, _, here, _⟩ := first
  exact here

theorem FirstBest.le (first : FirstBest rank hit items best) (member : other ∈ items)
    (here : hit other = true) : rank best ≤ rank other := by
  obtain ⟨front, back, rfl, _, before, after⟩ := first
  rcases List.mem_append.mp member with early | late
  · exact le_of_lt (before other early here)
  · rcases List.mem_cons.mp late with rfl | late
    · exact le_refl _
    · exact after other late here

theorem firstBest_cons : FirstBest rank hit (item :: rest) best ↔
    (best = item ∧ hit item = true ∧ ∀ other ∈ rest, hit other = true → rank item ≤ rank other) ∨
      FirstBest rank hit rest best ∧ (hit item = true → rank best < rank item) := by
  constructor
  · rintro ⟨front, back, split, here, before, after⟩
    cases front with
    | nil =>
        obtain ⟨rfl, rfl⟩ := List.cons.inj split
        exact .inl ⟨rfl, here, after⟩
    | cons head front =>
        obtain ⟨rfl, rfl⟩ := List.cons.inj split
        exact .inr ⟨⟨front, back, rfl, here,
          fun other member => before other (List.mem_cons_of_mem _ member), after⟩,
          before _ List.mem_cons_self⟩
  · rintro (⟨rfl, here, after⟩ | ⟨⟨front, back, rfl, here, before, after⟩, below⟩)
    · exact ⟨[], rest, rfl, here, by simp, after⟩
    · exact ⟨item :: front, back, rfl, here, List.forall_mem_cons.mpr ⟨below, before⟩, after⟩

theorem FirstBest.unique (first : FirstBest rank hit items best)
    (second : FirstBest rank hit items other) : best = other := by
  induction items with
  | nil => exact absurd first.mem List.not_mem_nil
  | cons item rest ih =>
      rcases firstBest_cons.mp first with ⟨rfl, here, least⟩ | ⟨later, below⟩
      · rcases firstBest_cons.mp second with ⟨rfl, _, _⟩ | ⟨later, below⟩
        · rfl
        · exact absurd (below here) (not_lt.mpr (least _ later.mem later.hits))
      · rcases firstBest_cons.mp second with ⟨rfl, here, least⟩ | ⟨later', _⟩
        · exact absurd (below here) (not_lt.mpr (least _ later.mem later.hits))
        · exact ih later later'

/-- The first hit is the best one if no hit has a lower rank. -/
theorem FirstBest.of_find (found : items.find? hit = some best)
    (least : ∀ other ∈ items, hit other = true → rank best ≤ rank other) :
    FirstBest rank hit items best := by
  obtain ⟨here, front, back, rfl, missed⟩ := List.find?_eq_some_iff_append.mp found
  refine ⟨front, back, rfl, here, fun other member hits => ?_, fun other member => ?_⟩
  · have silent := missed other member
    rw [hits] at silent
    cases silent
  · exact least other (List.mem_append_right _ (List.mem_cons_of_mem _ member))

/-- In order of rank the first hit is the best one. -/
theorem Ranked.firstBest (ranked : Ranked rank items) (found : items.find? hit = some best) :
    FirstBest rank hit items best := by
  obtain ⟨_, front, back, rfl, missed⟩ := List.find?_eq_some_iff_append.mp found
  have after := List.pairwise_cons.mp (List.pairwise_append.mp ranked).2.1
  apply FirstBest.of_find found
  intro other member hits
  rcases List.mem_append.mp member with early | late
  · have silent := missed other early
    rw [hits] at silent
    cases silent
  · rcases List.mem_cons.mp late with rfl | late
    · exact le_refl _
    · exact after.1 other late

/-- An insertion puts the item before those of its own rank. -/
theorem Ranked.firstBest_orderedInsert (ranked : Ranked rank items)
    (first : FirstBest rank hit (items.orderedInsert (fun left right => rank left ≤ rank right) item)
      best) : FirstBest rank hit (item :: items) best := by
  induction items with
  | nil => exact first
  | cons head rest ih =>
      obtain ⟨least, ordered⟩ := List.pairwise_cons.mp ranked
      rw [List.orderedInsert_cons] at first
      split at first
      · exact first
      · rename_i above
        have below : rank head < rank item := not_le.mp above
        rcases firstBest_cons.mp first with ⟨rfl, here, _⟩ | ⟨later, lower⟩
        · exact firstBest_cons.mpr (.inr ⟨firstBest_cons.mpr
            (.inl ⟨rfl, here, fun other member _ => least other member⟩), fun _ => below⟩)
        · rcases firstBest_cons.mp (ih ordered later) with ⟨rfl, here, all⟩ | ⟨inRest, smaller⟩
          · apply firstBest_cons.mpr
            refine .inl ⟨rfl, here, List.forall_mem_cons.mpr ⟨fun hits => ?_, all⟩⟩
            exact absurd (lower hits) (not_lt.mpr (le_of_lt below))
          · exact firstBest_cons.mpr (.inr ⟨firstBest_cons.mpr (.inr ⟨inRest, lower⟩), smaller⟩)

/-- The sort is stable: it does not change which hit is the first of the best. -/
theorem FirstBest.of_insertionSort
    (first : FirstBest rank hit (items.insertionSort fun left right => rank left ≤ rank right) best) :
    FirstBest rank hit items best := by
  induction items generalizing best with
  | nil => exact first
  | cons item rest ih =>
      have ordered : Ranked rank (rest.insertionSort fun left right => rank left ≤ rank right) :=
        List.pairwise_insertionSort _ rest
      rcases firstBest_cons.mp (ordered.firstBest_orderedInsert first) with
        ⟨rfl, here, least⟩ | ⟨later, below⟩
      · exact firstBest_cons.mpr (.inl ⟨rfl, here, fun other member =>
          least other ((List.mem_insertionSort _).mpr member)⟩)
      · exact firstBest_cons.mpr (.inr ⟨ih later, below⟩)

end FirstBest

/-- `sort_by_key(|r| Reverse(r.net.prefix_len()))`, which is stable. -/
def NetInput.rank (input : NetInput) : OrderDual Nat := OrderDual.toDual input.net.prefixLen.val

def sortByPrefix (table : List NetInput) : List NetInput :=
  table.insertionSort fun left right => left.rank ≤ right.rank

structure SubnetExternalRoute where
  routeTable : List NetInput

namespace SubnetExternalRoute

def default : SubnetExternalRoute := ⟨[]⟩

def new (routeTable : List NetInput) : SubnetExternalRoute := ⟨sortByPrefix routeTable⟩

def setRouteTable (_ : SubnetExternalRoute) (routeTable : List NetInput) : SubnetExternalRoute :=
  ⟨sortByPrefix routeTable⟩

def resetRoute (_ : SubnetExternalRoute) (routeTable : List NetInput) : SubnetExternalRoute :=
  ⟨routeTable⟩

def route (routes : SubnetExternalRoute) (ip : Ipv4Addr) : Option Ipv4Addr :=
  if routes.routeTable.isEmpty then none else VntClient.route routes.routeTable ip

theorem route_eq (routes : SubnetExternalRoute) (ip : Ipv4Addr) : routes.route ip =
    (routes.routeTable.find? fun input => input.net.contains ip).map NetInput.targetIp := by
  rw [route]
  split
  · rename_i empty
    rw [List.isEmpty_iff.mp empty]
    rfl
  · rfl

end SubnetExternalRoute

/-- A call that gives the routes a new table. -/
inductive RouteCall
  | new (table : List NetInput)
  | setRouteTable (table : List NetInput)
  | resetRoute (table : List NetInput)

namespace RouteCall

def apply (routes : SubnetExternalRoute) : RouteCall → SubnetExternalRoute
  | new table => .new table
  | setRouteTable table => routes.setRouteTable table
  | resetRoute table => routes.resetRoute table

def replay (calls : List RouteCall) : SubnetExternalRoute := calls.foldl apply .default

def table : RouteCall → List NetInput
  | new table | setRouteTable table | resetRoute table => table

/-- The networks configured after some calls, in the order they were given. -/
def configured (calls : List RouteCall) : List NetInput := (calls.getLast?.map table).getD []

/-- The first of the longest networks of a table that contain an address. -/
abbrev MostSpecific (table : List NetInput) (ip : Ipv4Addr) : NetInput → Prop :=
  FirstBest NetInput.rank (fun input => input.net.contains ip) table

/-- What a longest match answers. -/
structure LongestMatch (table : List NetInput) (ip : Ipv4Addr) (answer : Option Ipv4Addr) :
    Prop where
  absent : answer = none ↔ ∀ input ∈ table, input.net.contains ip = false
  present : ∀ target, answer = some target →
    ∃ input, MostSpecific table ip input ∧ input.targetIp = target

/-- The first network with the address is a shorter one and leads somewhere else. -/
def Shadowed (table : List NetInput) (ip : Ipv4Addr) : Prop :=
  ∃ first best, table.find? (fun input => input.net.contains ip) = some first ∧
    MostSpecific table ip best ∧ first.net.prefixLen < best.net.prefixLen ∧
    first.targetIp ≠ best.targetIp

variable {table : List NetInput} {ip : Ipv4Addr}

theorem mostSpecific_sorted {input : NetInput}
    (found : (sortByPrefix table).find? (fun input => input.net.contains ip) = some input) :
    MostSpecific table ip input :=
  FirstBest.of_insertionSort (Ranked.firstBest (List.pairwise_insertionSort _ table) found)

/-- An address that some network contains is in a most specific one. -/
theorem mostSpecific_exists (found : ∃ input ∈ table, input.net.contains ip = true) :
    ∃ input, MostSpecific table ip input := by
  obtain ⟨input, member, contains⟩ := found
  cases first : (sortByPrefix table).find? fun input => input.net.contains ip with
  | none =>
      have absent := List.find?_eq_none.mp first input ((List.mem_insertionSort _).mpr member)
      exact absurd contains absent
  | some best => exact ⟨best, mostSpecific_sorted first⟩

theorem longestMatch_sorted :
    LongestMatch table ip (((sortByPrefix table).find? fun input => input.net.contains ip).map
      NetInput.targetIp) where
  absent := by
    rw [Option.map_eq_none_iff, List.find?_eq_none]
    simp only [sortByPrefix, List.mem_insertionSort, Bool.not_eq_true]
  present := by
    intro target answer
    obtain ⟨input, found, rfl⟩ := Option.map_eq_some_iff.mp answer
    exact ⟨input, mostSpecific_sorted found, rfl⟩

/-- The table as it stands: nothing may come before the most specific network. -/
theorem longestMatch_unsorted :
    LongestMatch table ip ((table.find? fun input => input.net.contains ip).map
      NetInput.targetIp) ↔ ¬ Shadowed table ip := by
  constructor
  · rintro ⟨_, present⟩ ⟨first, best, found, specific, _, apart⟩
    obtain ⟨input, specific', same⟩ := present first.targetIp (by rw [found]; rfl)
    exact apart (same.symm.trans (congrArg NetInput.targetIp (specific'.unique specific)))
  · intro clear
    constructor
    · rw [Option.map_eq_none_iff, List.find?_eq_none]
      simp only [Bool.not_eq_true]
    · intro target answer
      obtain ⟨first, found, rfl⟩ := Option.map_eq_some_iff.mp answer
      have member := List.mem_of_find?_eq_some found
      have contains : first.net.contains ip = true :=
        List.find?_some (p := fun input : NetInput => input.net.contains ip) found
      obtain ⟨best, specific⟩ := mostSpecific_exists ⟨first, member, contains⟩
      by_cases shorter : first.net.prefixLen < best.net.prefixLen
      · by_cases same : first.targetIp = best.targetIp
        · exact ⟨best, specific, same.symm⟩
        · exact absurd ⟨first, best, found, specific, shorter, same⟩ clear
      · have rank : first.rank ≤ best.rank := OrderDual.toDual_le_toDual.mpr (not_lt.mp shorter)
        have least : MostSpecific table ip first := FirstBest.of_find found fun other member contains =>
          le_trans rank (specific.le member contains)
        exact ⟨first, least, rfl⟩

theorem replay_append (calls : List RouteCall) (call : RouteCall) :
    replay (calls ++ [call]) = call.apply (replay calls) := List.foldl_concat ..

/-- After any calls a lookup is a longest match, unless `reset_route` put the table there and
hides a longer network behind a shorter one. -/
theorem replay_longestMatch_iff (calls : List RouteCall) (ip : Ipv4Addr) :
    LongestMatch (configured calls) ip ((replay calls).route ip) ↔
      ∀ table, calls.getLast? = some (.resetRoute table) → ¬ Shadowed table ip := by
  rw [SubnetExternalRoute.route_eq]
  cases calls using List.reverseRecOn with
  | nil => exact iff_of_true (@longestMatch_sorted [] ip) (fun _ last => by cases last)
  | append_singleton calls call =>
      rw [replay_append, configured, List.getLast?_concat]
      cases call with
      | new table => exact iff_of_true longestMatch_sorted (fun _ last => by cases last)
      | setRouteTable table => exact iff_of_true longestMatch_sorted (fun _ last => by cases last)
      | resetRoute table =>
          constructor
          · rintro longest _ ⟨⟩
            exact longestMatch_unsorted.mp longest
          · exact fun clear => longestMatch_unsorted.mpr (clear table rfl)

def resetCalls : List RouteCall :=
  [.resetRoute [⟨⟨0x0A000000, ⟨8, by decide⟩⟩, 0x0A1A0002⟩,
    ⟨⟨0x0A010000, ⟨16, by decide⟩⟩, 0x0A1A0003⟩]]

theorem replay_not_longestMatch :
    ¬ ∀ (calls : List RouteCall) (ip : Ipv4Addr),
      LongestMatch (configured calls) ip ((replay calls).route ip) := by
  intro all
  obtain ⟨input, specific, target⟩ := (all resetCalls 0x0A010001).present 0x0A1A0002 rfl
  rcases List.mem_cons.mp specific.mem with rfl | member
  · have shorter := specific.le (List.mem_cons_of_mem _ List.mem_cons_self) (by decide)
    exact absurd shorter (by decide)
  · rw [List.mem_singleton.mp member] at target
    exact absurd target (by decide)

end RouteCall

end VntClient
