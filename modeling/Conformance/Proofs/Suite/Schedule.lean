import Conformance.Proofs.Suite.Build
import Conformance.Proofs.Suite.Order

/-!
# The order of a suite

The edges of a graph that represents a selection are closed and have no infinite descent, so its order
leaves no node over. `Registry.Scheduled` is what a list of nodes then is for the selection: all that
is below it, each once, each after what it depends on.
-/

namespace Conformance

namespace Registry

/-- The nodes are those of the tests below the selection, each once and after all that it depends on. -/
structure Scheduled (r : Registry) (fixtures : Fixtures) (roots : List TestDefinition) (nodes : List TestNode) :
    Prop where
  settles : ∀ d, r.Reached fixtures roots d → r.Settles fixtures d
  mem_iff : ∀ n, n ∈ nodes ↔ ∃ d, r.Reached fixtures roots d ∧ n = .ofDefinition fixtures d
  names_nodup : (nodes.map TestNode.name).Nodup
  before : ∀ {early late : List TestNode} {n : TestNode} {u : TestDefinition}, nodes = early ++ n :: late →
    r.DependsOn fixtures n.definition u → .ofDefinition fixtures u ∈ early

variable {r : Registry} {fixtures : Fixtures} {roots : List TestDefinition} {nodes : List TestNode}
  {d u : TestDefinition} {n : TestNode}

theorem mem_map_name_iff (members : ∀ n, n ∈ nodes ↔ ∃ d, r.Reached fixtures roots d ∧ n = .ofDefinition fixtures d)
    {name : String} : name ∈ nodes.map TestNode.name ↔ ∃ d, r.Reached fixtures roots d ∧ d.name = name := by
  rw [List.mem_map]
  constructor
  · rintro ⟨n, member, rfl⟩
    obtain ⟨d, reached, rfl⟩ := (members n).mp member
    exact ⟨d, reached, rfl⟩
  · rintro ⟨d, reached, rfl⟩
    exact ⟨_, (members _).mpr ⟨d, reached, rfl⟩, rfl⟩

namespace Scheduled

theorem node_mem (scheduled : r.Scheduled fixtures roots nodes) (reached : r.Reached fixtures roots d) :
    .ofDefinition fixtures d ∈ nodes :=
  (scheduled.mem_iff _).mpr ⟨d, reached, rfl⟩

theorem registered (scheduled : r.Scheduled fixtures roots nodes) (built : r.Built)
    (registered : ∀ d ∈ roots, d ∈ r.definitions) (member : n ∈ nodes) :
    n.definition ∈ r.definitions ∧ n = .ofDefinition fixtures n.definition := by
  obtain ⟨d, reached, rfl⟩ := (scheduled.mem_iff n).mp member
  exact ⟨reached.registered built registered, rfl⟩

theorem dependency_mem (scheduled : r.Scheduled fixtures roots nodes) (member : n ∈ nodes)
    (depends : r.DependsOn fixtures n.definition u) : .ofDefinition fixtures u ∈ nodes := by
  obtain ⟨early, late, split⟩ := List.append_of_mem member
  rw [split]
  exact List.mem_append_left _ (scheduled.before split depends)

theorem mem_names_iff (scheduled : r.Scheduled fixtures roots nodes) {name : String} :
    name ∈ nodes.map TestNode.name ↔ ∃ d, r.Reached fixtures roots d ∧ d.name = name :=
  mem_map_name_iff scheduled.mem_iff

theorem idxOf_lt (scheduled : r.Scheduled fixtures roots nodes) (reached : r.Reached fixtures roots d)
    (depends : r.DependsOn fixtures d u) :
    (nodes.map TestNode.name).idxOf u.name < (nodes.map TestNode.name).idxOf d.name := by
  obtain ⟨early, late, split⟩ := List.append_of_mem (scheduled.node_mem reached)
  have first : u.name ∈ early.map TestNode.name :=
    List.mem_map.mpr ⟨_, scheduled.before split depends, rfl⟩
  have apart := scheduled.names_nodup
  rw [split, List.map_append, List.map_cons] at apart ⊢
  have later : d.name ∉ early.map TestNode.name := by
    intro early
    exact (List.nodup_append.mp apart).2.2 _ early _ List.mem_cons_self rfl
  rw [List.idxOf_append_of_mem first, List.idxOf_append_of_notMem later]
  have within := List.idxOf_lt_length_of_mem first
  omega

end Scheduled

end Registry

namespace DependencyGraph

variable {g : DependencyGraph} {r : Registry} {fixtures : Fixtures} {roots : List TestDefinition} {i j : Nat}
  {n : TestNode}

namespace Represents

theorem mem_keys (represents : g.Represents r fixtures roots) : i ∈ g.edges.keys ↔ i < g.size := by
  rw [SortedMap.mem_keys_iff]
  constructor
  · rintro ⟨targets, edges⟩
    exact represents.keys i targets edges
  · intro within
    obtain ⟨targets, edges, -⟩ := represents.edges i _ (List.getElem?_eq_getElem within)
    exact ⟨targets, edges⟩

theorem waits_iff (represents : g.Represents r fixtures roots) (found : g.nodes[i]? = some n) :
    Waiting.Waits g.edges i j ↔ ∃ m, g.nodes[j]? = some m ∧ r.DependsOn fixtures n.definition m.definition := by
  obtain ⟨targets, edges, members⟩ := represents.edges i n found
  rw [← members]
  constructor
  · rintro ⟨targets', edges', member⟩
    rw [Option.some.inj (edges.symm.trans edges')]
    exact member
  · exact fun member => ⟨targets, edges, member⟩

theorem node (represents : g.Represents r fixtures roots) (key : i ∈ g.edges.keys) :
    ∃ n, g.nodes[i]? = some n ∧ r.Settles fixtures n.definition := by
  have within := represents.mem_keys.mp key
  have found := List.getElem?_eq_getElem within
  obtain ⟨d, reached, same⟩ := (represents.nodes _).mp (List.mem_of_getElem? found)
  refine ⟨_, found, ?_⟩
  rw [same]
  exact represents.settles d reached

theorem closed (represents : g.Represents r fixtures roots) : Waiting.Closed g.edges := by
  intro i j waits
  obtain ⟨n, found, -⟩ := represents.node waits.mem_keys
  obtain ⟨m, foundM, -⟩ := (represents.waits_iff found).mp waits
  exact represents.mem_keys.mpr (List.getElem?_eq_some_iff.mp foundM).1

theorem grounded (represents : g.Represents r fixtures roots) (key : i ∈ g.edges.keys) :
    Acc (fun j i => Waiting.Waits g.edges i j) i := by
  obtain ⟨n, found, settles⟩ := represents.node key
  generalize atI : n.definition = d at settles
  induction settles generalizing i n with
  | intro _ _ ih =>
    subst atI
    constructor
    intro j waits
    obtain ⟨m, foundM, depends⟩ := (represents.waits_iff found).mp waits
    exact ih _ depends (represents.closed i j waits) m foundM rfl

/-- No node of the graph is left over. -/
theorem unscheduled (represents : g.Represents r fixtures roots) : (Waiting.schedule g.edges).2 = [] :=
  Waiting.left_eq_nil represents.closed fun _ => represents.grounded

theorem order_eq (represents : g.Represents r fixtures roots) :
    Order.ofEdges g.edges = ⟨(Waiting.schedule g.edges).1, []⟩ := by
  rw [Order.ofEdges_eq, Waiting.ofEdges_of_closed represents.closed]
  simp [represents.unscheduled]

theorem mem_order (represents : g.Represents r fixtures roots) :
    i ∈ (Order.ofEdges g.edges).nodes ↔ i < g.size := by
  rw [represents.order_eq, ← represents.mem_keys, Waiting.mem_keys_iff, represents.unscheduled]
  simp

/-- Each index of the order stands for a node. -/
theorem map_node? (represents : g.Represents r fixtures roots) :
    (Order.ofEdges g.edges).nodes.map g.node? =
      ((Order.ofEdges g.edges).nodes.filterMap g.node?).map some := by
  have all : ∀ i ∈ (Order.ofEdges g.edges).nodes, (g.node? i).isSome = true := by
    intro i member
    rw [node?, List.getElem?_eq_getElem (represents.mem_order.mp member)]
    rfl
  generalize (Order.ofEdges g.edges).nodes = order at all
  induction order with
  | nil => rfl
  | cons i rest ih =>
    obtain ⟨n, found⟩ := Option.isSome_iff_exists.mp (all i List.mem_cons_self)
    rw [List.map_cons, List.filterMap_cons_some found, List.map_cons, found,
      ih fun j member => all j (List.mem_cons_of_mem _ member)]

theorem eq_of_name (represents : g.Represents r fixtures roots) {m : TestNode} (foundN : g.nodes[i]? = some n)
    (foundM : g.nodes[j]? = some m) (same : n.name = m.name) : i = j := by
  have atI : (g.nodes.map TestNode.name)[i]? = some n.name := by simp [foundN]
  have atJ : (g.nodes.map TestNode.name)[j]? = some n.name := by simp [foundM, same]
  obtain ⟨within, -⟩ := List.getElem?_eq_some_iff.mp atI
  exact (List.getElem?_inj within represents.names_nodup).mp (atI.trans atJ.symm)

theorem scheduled (represents : g.Represents r fixtures roots) :
    r.Scheduled fixtures roots ((Order.ofEdges g.edges).nodes.filterMap g.node?) := by
  have held := represents.map_node?
  refine ⟨represents.settles, fun n => ?_, ?_, ?_⟩
  · rw [← represents.nodes, List.mem_filterMap, List.mem_iff_getElem?]
    constructor
    · rintro ⟨i, -, found⟩
      exact ⟨i, found⟩
    · rintro ⟨i, found⟩
      exact ⟨i, represents.mem_order.mpr (List.getElem?_eq_some_iff.mp found).1, found⟩
  · rw [List.map_filterMap]
    have taken : (Order.ofEdges g.edges).nodes.Nodup := by
      rw [represents.order_eq]
      exact Waiting.nodup_schedule _
    refine taken.filterMap fun i j name namedI namedJ => ?_
    obtain ⟨n, foundN, rfl⟩ := Option.map_eq_some_iff.mp namedI
    obtain ⟨m, foundM, same⟩ := Option.map_eq_some_iff.mp namedJ
    exact represents.eq_of_name foundN foundM same.symm
  · intro early late n u split depends
    rw [split, List.map_append, List.map_cons, List.map_eq_append_iff] at held
    obtain ⟨before, rest, order, earlier, later⟩ := held
    obtain ⟨i, after, rfl, found, -⟩ := List.map_eq_cons_iff.mp later
    have reached : r.Reached fixtures roots u := by
      obtain ⟨d, reachedD, rfl⟩ := (represents.nodes n).mp (List.mem_of_getElem? found)
      exact reachedD.step depends
    obtain ⟨j, foundU⟩ := List.mem_iff_getElem?.mp ((represents.nodes _).mpr ⟨u, reached, rfl⟩)
    have waits := (represents.waits_iff found).mpr ⟨_, foundU, depends⟩
    rw [represents.order_eq] at order
    have first : j ∈ before := Waiting.before_schedule _ order waits
    have member : some (TestNode.ofDefinition fixtures u) ∈ early.map some :=
      earlier ▸ List.mem_map.mpr ⟨j, first, foundU⟩
    simpa using member

end Represents

end DependencyGraph

end Conformance
