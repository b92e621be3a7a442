import ShinQlx.EventDispatcher

/-! # The registrations behind a hook registry

What a hook registry is for can be said without its nested lists: it remembers
which plugins registered in which order, and which registrations are still live,
in the order in which they were made (`Ledger`).  An accepted `add_hook` appends
a registration, an accepted `remove_hook` strikes out the plugin's registrations
at that priority whose handler does not differ from the given one, and every
other call leaves the ledger alone (`Ledger.record`).

The registry refines the ledger of its history: after any run of calls its
`plugins` field is the ledger sorted by plugin and priority (`refines_run`).  So
a dispatch goes through the live registrations by priority, then by the order in
which their plugins first registered, then by the order of registration
(`handlers_eq_order`).
-/
namespace ShinQlx

/-- A handler registered by a plugin at a priority. -/
structure Registration (H : Type) where
  plugin : String
  priority : Fin 5
  handler : H
  deriving DecidableEq, Repr

/-- The plugins that ever registered, in order of their first registration, and
the live registrations, in order of registration. -/
structure Ledger (H : Type) where
  seen : List String
  live : List (Registration H)

namespace Ledger
variable {H : Type}

/-- Nothing registered yet. -/
def empty : Ledger H := ⟨[], []⟩

/-- A further registration. -/
def add (l : Ledger H) (r : Registration H) : Ledger H :=
  ⟨if r.plugin ∈ l.seen then l.seen else l.seen ++ [r.plugin], l.live ++ [r]⟩

/-- The live handlers of a plugin, by priority. -/
def hooks (live : List (Registration H)) (plugin : String) : Hooks H := fun i =>
  (live.filter fun r => r.plugin = plugin ∧ r.priority = i).map (·.handler)

/-- The ledger sorted by plugin and priority. -/
def table (l : Ledger H) : Plugins H := l.seen.map fun plugin => (plugin, hooks l.live plugin)

/-- The order of dispatch: by priority, then by first registration of the
plugin, then by registration. -/
def order (l : Ledger H) : List H :=
  (List.finRange 5).flatMap fun i => l.seen.flatMap fun plugin =>
    (l.live.filter fun r => r.plugin = plugin ∧ r.priority = i).map (·.handler)

/-- Only plugins that registered have live registrations, and each is seen
once. -/
structure Valid (l : Ledger H) : Prop where
  seen_nodup : l.seen.Nodup
  live_seen : ∀ r ∈ l.live, r.plugin ∈ l.seen

theorem empty_valid : (empty : Ledger H).Valid := ⟨List.nodup_nil, by simp [empty]⟩

theorem keys_table (l : Ledger H) : l.table.map Prod.fst = l.seen := by
  simp [table, Function.comp_def]

/-- A change of one plugin's lists, on the sorted ledger. -/
theorem modify_table {l : Ledger H} (hl : l.Valid) (plugin : String) (f : Hooks H → Hooks H) :
    Assoc.modify plugin f l.table = l.seen.map fun q =>
      (q, if q = plugin then f (hooks l.live q) else hooks l.live q) := by
  rw [Assoc.modify_eq_map (by rw [keys_table]; exact hl.seen_nodup), table, List.map_map]
  refine List.map_congr_left fun q _ => ?_
  by_cases h : q = plugin
  · simp [h]
  · simp [h]

theorem hooks_append (live : List (Registration H)) (r : Registration H) (plugin : String) :
    hooks (live ++ [r]) plugin =
      if plugin = r.plugin then Levels.push r.priority r.handler (hooks live plugin)
      else hooks live plugin := by
  funext i
  by_cases hp : plugin = r.plugin
  · by_cases hi : i = r.priority
    · subst hi
      simp [hooks, List.filter_append, hp]
    · rw [if_pos hp, Levels.push_of_ne hi]
      simp [hooks, List.filter_append, hp, Ne.symm hi]
  · rw [if_neg hp]
    simp [hooks, List.filter_append, Ne.symm hp]

theorem add_valid {l : Ledger H} (hl : l.Valid) (r : Registration H) : (l.add r).Valid := by
  by_cases hr : r.plugin ∈ l.seen
  · refine ⟨by simpa [add, hr] using hl.seen_nodup, ?_⟩
    simp only [add, hr, if_true, List.mem_append, List.mem_singleton]
    rintro s (hs | rfl)
    · exact hl.live_seen s hs
    · exact hr
  · refine ⟨?_, ?_⟩
    · simp only [add, hr, if_false]
      exact List.nodup_append.mpr ⟨hl.seen_nodup, List.nodup_singleton _,
        fun a ha b hb hab => hr (List.mem_singleton.mp hb ▸ hab ▸ ha)⟩
    · simp only [add, hr, if_false, List.mem_append, List.mem_singleton]
      rintro s (hs | rfl)
      · exact .inl (hl.live_seen s hs)
      · exact .inr rfl

/-- A plugin's first registration adds an entry to the sorted ledger. -/
theorem table_add_new {l : Ledger H} (hl : l.Valid) {r : Registration H} (hr : r.plugin ∉ l.seen) :
    (l.add r).table = l.table ++ [(r.plugin, Levels.push r.priority r.handler fun _ => [])] := by
  have hnone : hooks l.live r.plugin = fun _ => [] := by
    funext i
    have : l.live.filter (fun s => s.plugin = r.plugin ∧ s.priority = i) = [] :=
      List.filter_eq_nil_iff.mpr fun s hs => by
        simp only [decide_eq_true_eq, not_and]
        exact fun h => absurd (h ▸ hl.live_seen s hs) hr
    rw [hooks, this, List.map_nil]
  simp only [table, add, hr, if_false, List.map_append, List.map_cons, List.map_nil]
  congr 1
  · refine List.map_congr_left fun q hq => ?_
    rw [hooks_append, if_neg (fun h : q = r.plugin => hr (h ▸ hq))]
  · rw [hooks_append, if_pos rfl, hnone]

/-- A further registration of a plugin is pushed on one of its lists. -/
theorem table_add_seen {l : Ledger H} (hl : l.Valid) {r : Registration H} (hr : r.plugin ∈ l.seen) :
    (l.add r).table = Assoc.modify r.plugin (Levels.push r.priority r.handler) l.table := by
  rw [modify_table hl]
  simp only [table, add, hr, if_true]
  exact List.map_congr_left fun q _ => by rw [hooks_append]

variable [PyCompare H]

/-- `remove_hook` means the registration: it is the plugin's, at the priority,
and its handler does not differ from the given one. -/
def struck (plugin : String) (i : Fin 5) (handler : H) (r : Registration H) : Bool :=
  r.plugin = plugin && r.priority = i && !PyCompare.maybeDiffers r.handler handler

/-- The live registrations without those that `remove_hook` means. -/
def remove (l : Ledger H) (plugin : String) (i : Fin 5) (handler : H) : Ledger H :=
  ⟨l.seen, l.live.filter (!struck plugin i handler ·)⟩

theorem remove_valid {l : Ledger H} (hl : l.Valid) (plugin : String) (i : Fin 5) (handler : H) :
    (l.remove plugin i handler).Valid :=
  ⟨hl.seen_nodup, fun r hr => hl.live_seen r (List.mem_of_mem_filter hr)⟩

theorem hooks_remove (live : List (Registration H)) (plugin : String) (i : Fin 5) (handler : H)
    (q : String) :
    hooks (live.filter (!struck plugin i handler ·)) q =
      if q = plugin then Levels.keepAt i (PyCompare.maybeDiffers · handler) (hooks live q)
      else hooks live q := by
  funext j
  have hother : (q ≠ plugin ∨ j ≠ i) →
      (live.filter (!struck plugin i handler ·)).filter (fun r => r.plugin = q ∧ r.priority = j) =
        live.filter fun r => r.plugin = q ∧ r.priority = j := by
    intro h
    rw [List.filter_filter]
    refine List.filter_congr fun r _ => ?_
    by_cases hr : r.plugin = q ∧ r.priority = j
    · obtain ⟨rfl, rfl⟩ := hr
      rcases h with h | h <;> simp [struck, h]
    · simp [hr]
  by_cases hq : q = plugin
  · by_cases hj : j = i
    · subst hq hj
      rw [if_pos rfl, Levels.keepAt_self, hooks, hooks, List.filter_map, List.filter_filter,
        List.filter_filter]
      refine congrArg (List.map _) (List.filter_congr fun r _ => ?_)
      by_cases hr : r.plugin = q ∧ r.priority = j
      · simp [struck, hr]
      · simp [hr]
    · rw [if_pos hq, Levels.keepAt_of_ne hj, hooks, hooks, hother (.inr hj)]
  · rw [if_neg hq, hooks, hooks, hother (.inl hq)]

/-- Striking out registrations filters one list of one plugin. -/
theorem table_remove {l : Ledger H} (hl : l.Valid) (plugin : String) (i : Fin 5) (handler : H) :
    (l.remove plugin i handler).table =
      Assoc.modify plugin (Levels.keepAt i (PyCompare.maybeDiffers · handler)) l.table := by
  rw [modify_table hl]
  exact List.map_congr_left fun q _ => by rw [remove, hooks_remove]

/-- The ledger after a step of the registry: only an accepted call made while no
dispatch held the registry leaves a trace. -/
def record (l : Ledger H)
    (st : Run.Step (Plugins H) (CallEnv × HookCall H) (Reply (Plugins H) (HookTask H))) :
    Ledger H :=
  if st.result.outcome = .ok () ∧ st.call.1.held = false then
    match st.call.2 with
    | .add plugin handler priority =>
      match priorityIndex priority with
      | some i => l.add ⟨plugin, i, handler⟩
      | none => l
    | .remove plugin handler priority =>
      match priorityIndex priority with
      | some i => l.remove plugin i handler
      | none => l
  else l

/-- The ledger of a run of calls from the empty registry. -/
def ofRun (t : DispatcherType) (cs : List (CallEnv × HookCall H)) : Ledger H :=
  (Run.steps (EventDispatcher.step t) [] cs).foldl record empty

/-! ## Refinement -/

/-- A registry refines a ledger: it is the ledger sorted. -/
structure Refines (l : Ledger H) (plugins : Plugins H) : Prop where
  table : plugins = l.table
  valid : l.Valid

omit [PyCompare H] in
theorem refines_empty : Refines (empty : Ledger H) [] := ⟨rfl, empty_valid⟩

theorem record_of_err {l : Ledger H} {plugins s : Plugins H} {c : CallEnv × HookCall H}
    {e : PyErr} {q : List (HookTask H)} :
    l.record ⟨plugins, c, ⟨.err e, s, q⟩, s⟩ = l := by
  simp [record]

theorem record_of_held {l : Ledger H} {plugins s : Plugins H} {c : CallEnv × HookCall H}
    {r : Reply (Plugins H) (HookTask H)} (h : c.1.held = true) :
    l.record ⟨plugins, c, r, s⟩ = l := by
  simp [record, h]

/-- `add_hook` past its checks refines the recording of a registration. -/
theorem refines_store {l : Ledger H} {plugins : Plugins H}
    (h : Refines l plugins) {env : CallEnv} (hheld : env.held = false) (plugin : String)
    (handler : H) (i : Fin 5) :
    Refines (l.record ⟨plugins, (env, .add plugin handler i),
        EventDispatcher.storeHook plugin handler i plugins,
        (EventDispatcher.storeHook plugin handler i plugins).state⟩)
      (EventDispatcher.storeHook plugin handler i plugins).state := by
  have hi : priorityIndex (i : Int) = some i := priorityIndex_eq_some.mpr rfl
  obtain ⟨rfl, hl⟩ := h
  rcases EventDispatcher.storeHook_cases plugin handler i l.table with
    ⟨hlook, hs⟩ | ⟨hooks, hlook, ⟨-, hs⟩ | ⟨-, hs⟩⟩
  · -- the first registration of the plugin
    have hnew : plugin ∉ l.seen := by
      rw [← keys_table]
      exact Assoc.lookup_eq_none_iff.mp hlook
    rw [hs]
    simp only [record, hheld, hi, and_self, if_true]
    exact ⟨(table_add_new hl (r := ⟨plugin, i, handler⟩) hnew).symm, add_valid hl _⟩
  · rw [hs, record_of_err]
    exact ⟨rfl, hl⟩
  · -- a further registration
    have hseen : plugin ∈ l.seen := by
      rw [← keys_table]
      exact List.mem_map_of_mem (f := Prod.fst) (Assoc.mem_of_lookup hlook)
    rw [hs]
    simp only [record, hheld, hi, and_self, if_true]
    exact ⟨(table_add_seen hl (r := ⟨plugin, i, handler⟩) hseen).symm, add_valid hl _⟩

/-- `remove_hook` past its checks refines the striking out of registrations. -/
theorem refines_drop {l : Ledger H} {plugins : Plugins H} (h : Refines l plugins) {env : CallEnv}
    (hheld : env.held = false) (plugin : String) (handler : H) (priority : Int) :
    Refines (l.record ⟨plugins, (env, .remove plugin handler priority),
        EventDispatcher.dropHook plugin handler priority plugins,
        (EventDispatcher.dropHook plugin handler priority plugins).state⟩)
      (EventDispatcher.dropHook plugin handler priority plugins).state := by
  obtain ⟨rfl, hl⟩ := h
  rcases EventDispatcher.dropHook_cases plugin handler priority l.table with
    ⟨-, hs⟩ | ⟨hooks, -, ⟨-, hs⟩ | ⟨i, hi, ⟨-, hs⟩ | ⟨-, hs⟩⟩⟩
  · rw [hs, record_of_err]
    exact ⟨rfl, hl⟩
  · rw [hs]
    simp only [record, reduceCtorEq, false_and, if_false]
    exact ⟨rfl, hl⟩
  · rw [hs, record_of_err]
    exact ⟨rfl, hl⟩
  · rw [hs]
    simp only [record, hheld, hi, and_self, if_true]
    exact ⟨(table_remove hl plugin i handler).symm, remove_valid hl plugin i handler⟩

/-- **One call on the registry is one entry in the ledger.** -/
theorem refines_step (t : DispatcherType) {l : Ledger H} {plugins : Plugins H}
    (h : Refines l plugins) (c : CallEnv × HookCall H) :
    Refines (l.record (Run.take (EventDispatcher.step t) plugins c))
      (EventDispatcher.step t plugins c).2 := by
  obtain ⟨env, call⟩ := c
  cases call with
  | add plugin handler priority =>
    simp only [Run.take, EventDispatcher.step, EventDispatcher.applyCall]
    rcases EventDispatcher.addHook_cases t env plugin handler priority plugins with
      ⟨e, hs⟩ | ⟨name, -, hheld, hs⟩ | ⟨i, rfl, -, hheld, hs⟩
    · rw [hs, record_of_err]
      exact h
    · rw [hs, record_of_held hheld]
      exact h
    · rw [hs]
      exact refines_store h hheld plugin handler i
  | remove plugin handler priority =>
    simp only [Run.take, EventDispatcher.step, EventDispatcher.applyCall]
    rcases EventDispatcher.removeHook_cases t env plugin handler priority plugins with
      ⟨e, hs⟩ | ⟨name, -, hheld, hs⟩ | ⟨-, hheld, hs⟩
    · rw [hs, record_of_err]
      exact h
    · rw [hs, record_of_held hheld]
      exact h
    · rw [hs]
      exact refines_drop h hheld plugin handler priority

/-- **The registry of a run is the ledger of the run, sorted.** -/
theorem refines_run (t : DispatcherType) (cs : List (CallEnv × HookCall H)) :
    Refines (ofRun t cs) (Run.final (EventDispatcher.step t) [] cs) := by
  suffices key : ∀ (l : Ledger H) plugins, Refines l plugins →
      Refines ((Run.steps (EventDispatcher.step t) plugins cs).foldl record l)
        (Run.final (EventDispatcher.step t) plugins cs) from key empty [] refines_empty
  induction cs with
  | nil => exact fun l plugins h => h
  | cons c cs ih => exact fun l plugins h => ih _ _ (refines_step t h c)

omit [PyCompare H] in
/-- The handlers a dispatch goes through are the live registrations in the order
of dispatch. -/
theorem handlers_eq_order {l : Ledger H} {plugins : Plugins H} (h : Refines l plugins) :
    EventDispatcher.handlers plugins = l.order := by
  rw [h.table, EventDispatcher.handlers, order]
  exact congrArg (List.flatMap · (List.finRange 5)) (funext fun i => by
    rw [table, List.flatMap_map]
    rfl)

end Ledger
end ShinQlx
