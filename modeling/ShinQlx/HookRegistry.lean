import ShinQlx.Filtering
import ShinQlx.HookLedger

/-! # Consistency of the hook registry

What a user of a dispatcher may expect of `add_hook` and `remove_hook`
(`HookSpec`): no call panics, a failing call changes nothing, no list ever holds
two handlers that compare equal, and an accepted `remove_hook` removes exactly
the handlers equal to the given one, of which there was at least one.

The code meets it as long as every call is `HookGood`.  `add_hook` needs only
that a handler the list's handlers do not equal does not equal them either.
`remove_hook` needs a priority that `add_hook` would accept — it indexes the
lists with an unchecked one — and handlers whose `!=` is false exactly where
their `==` is true, because it looks for the handler with the one and removes it
with the other, and takes a comparison that raises for a match in the first step
and for a difference in the second.  Run by run the two are equivalent
(`hookSpec_run_iff`).
-/
namespace ShinQlx
namespace EventDispatcher
variable {H : Type} [PyCompare H]

/-- Two handlers that compare equal one way or the other. -/
def Alike (a b : H) : Prop := PyCompare.equals a b = true ∨ PyCompare.equals b a = true

/-- No list of any plugin holds two handlers that compare equal. -/
def Distinct (plugins : Plugins H) : Prop :=
  ∀ entry ∈ plugins, ∀ i, (entry.2 i).Pairwise (fun a b => ¬ Alike a b)

omit [PyCompare H] in
/-- The registrations in the order of dispatch. -/
def entries (plugins : Plugins H) : List (Registration H) :=
  (List.finRange 5).flatMap fun i => plugins.flatMap fun entry =>
    (entry.2 i).map fun handler => ⟨entry.1, i, handler⟩

/-- The registrations `remove_hook` is asked to remove. -/
def isTarget (plugin : String) (priority : Int) (handler : H) (r : Registration H) : Bool :=
  r.plugin = plugin && (r.priority : Int) = priority && PyCompare.equals r.handler handler

/-- A step of the registry. -/
abbrev HookStep (H : Type) :=
  Run.Step (Plugins H) (CallEnv × HookCall H) (Reply (Plugins H) (HookTask H))

/-- What a call on the hook registry promises. -/
structure HookSpec (st : HookStep H) : Prop where
  no_panic : st.result.outcome ≠ .panic
  unchanged : ∀ e, st.result.outcome = .err e → st.after = st.before
  distinct : Distinct st.after
  deferred : st.call.1.held = true → st.after = st.before
  removed : ∀ plugin handler priority, st.call.2 = .remove plugin handler priority →
    st.call.1.held = false → st.result.outcome = .ok () →
      Filtering.Removes (isTarget plugin priority handler) (entries st.before) (entries st.after)

/-- The calls that keep the promise, in the registry they find. -/
def HookGood (t : DispatcherType) (plugins : Plugins H) (c : CallEnv × HookCall H) : Prop :=
  c.1.held = false →
    match c.2 with
    | .add plugin handler priority => AddPasses t c.1 →
      ∀ hooks i, Assoc.lookup plugin plugins = some hooks → priorityIndex priority = some i →
        (∀ a ∈ hooks i, PyCompare.equals a handler = false) →
          ∀ a ∈ hooks i, PyCompare.equals handler a = false
    | .remove plugin handler priority => t.name ≠ none →
      ∀ hooks, Assoc.lookup plugin plugins = some hooks →
        ∃ i, priorityIndex priority = some i ∧
          ((∃ a ∈ hooks i, PyCompare.maybeEquals a handler = true) →
            (∃ a ∈ hooks i, PyCompare.equals a handler = true) ∧
            ∀ a ∈ hooks i, PyCompare.maybeDiffers a handler = !PyCompare.equals a handler)

/-! ## Registrations and lists -/

omit [PyCompare H] in
theorem mem_entries {plugins : Plugins H} {r : Registration H} :
    r ∈ entries plugins ↔ ∃ hooks, (r.plugin, hooks) ∈ plugins ∧ r.handler ∈ hooks r.priority := by
  simp only [entries, List.mem_flatMap, List.mem_map, List.mem_finRange, true_and]
  constructor
  · rintro ⟨i, ⟨plugin, hooks⟩, hmem, handler, hh, rfl⟩
    exact ⟨hooks, hmem, hh⟩
  · rintro ⟨hooks, hmem, hh⟩
    exact ⟨r.priority, (r.plugin, hooks), hmem, r.handler, hh, rfl⟩

theorem entries_remove (l : Ledger H) (plugin : String) (i : Fin 5) (handler : H) :
    entries (l.remove plugin i handler).table =
      (entries l.table).filter (!Ledger.struck plugin i handler ·) := by
  simp only [entries, Ledger.table, Ledger.remove, List.flatMap_map, List.filter_flatMap,
    Ledger.hooks, List.map_map, List.filter_map, List.filter_filter]
  refine congrArg (List.flatMap · _) (funext fun j => ?_)
  refine congrArg (List.flatMap · _) (funext fun q => ?_)
  have hsame : ∀ r : Registration H, (decide (r.plugin = q ∧ r.priority = j) &&
      !Ledger.struck plugin i handler r) =
      (decide (r.plugin = q ∧ r.priority = j) &&
        !Ledger.struck plugin i handler ⟨q, j, r.handler⟩) := by
    intro r
    by_cases hr : r.plugin = q ∧ r.priority = j
    · simp [Ledger.struck, hr]
    · simp [hr]
  refine congrArg (List.map _) (List.filter_congr fun r _ => ?_)
  rw [hsame, Bool.and_comm]
  rfl

omit [PyCompare H] in
theorem mem_entries_of_lookup {plugins : Plugins H} {plugin : String} {hooks : Hooks H} {i : Fin 5}
    {a : H} (hlook : Assoc.lookup plugin plugins = some hooks) (ha : a ∈ hooks i) :
    (⟨plugin, i, a⟩ : Registration H) ∈ entries plugins :=
  mem_entries.mpr ⟨hooks, Assoc.mem_of_lookup hlook, ha⟩

omit [PyCompare H] in
/-- A registration sits in the list its plugin and priority select. -/
theorem mem_of_mem_entries {plugins : Plugins H} (hkeys : (plugins.map Prod.fst).Nodup)
    {plugin : String} {hooks : Hooks H} {i : Fin 5} {r : Registration H}
    (hlook : Assoc.lookup plugin plugins = some hooks) (hr : r ∈ entries plugins)
    (hp : r.plugin = plugin) (hi : r.priority = i) : r.handler ∈ hooks i := by
  obtain ⟨hooks', hmem, hh⟩ := mem_entries.mp hr
  have hsome := Assoc.lookup_of_mem hkeys hmem
  rw [hp, hlook] at hsome
  rw [Option.some.inj hsome, ← hi]
  exact hh

/-- The effect on `Distinct` of changing one plugin's lists. -/
theorem distinct_modify {plugins : Plugins H} (hkeys : (plugins.map Prod.fst).Nodup)
    {plugin : String} {hooks : Hooks H} (hlook : Assoc.lookup plugin plugins = some hooks)
    (hd : Distinct plugins) (f : Hooks H → Hooks H) :
    Distinct (Assoc.modify plugin f plugins) ↔
      ∀ i, (f hooks i).Pairwise (fun a b => ¬ Alike a b) := by
  rw [Assoc.modify_eq_map hkeys]
  constructor
  · intro h i
    have hmem : (plugin, f hooks) ∈
        plugins.map (fun e => if e.1 = plugin then (e.1, f e.2) else e) :=
      List.mem_map.mpr ⟨(plugin, hooks), Assoc.mem_of_lookup hlook, if_pos rfl⟩
    exact h _ hmem i
  · intro h entry hentry i
    obtain ⟨⟨q, hooks'⟩, hmem, rfl⟩ := List.mem_map.mp hentry
    by_cases hq : q = plugin
    · subst hq
      have hsome := Assoc.lookup_of_mem hkeys hmem
      rw [hlook] at hsome
      rw [if_pos rfl, ← Option.some.inj hsome]
      exact h i
    · rw [if_neg hq]
      exact hd _ hmem i

theorem pairwise_push {hooks : Hooks H} {i : Fin 5} {handler : H}
    (hd : ∀ j, (hooks j).Pairwise (fun a b => ¬ Alike a b))
    (hnew : ∀ a ∈ hooks i, PyCompare.equals a handler = false) :
    (∀ j, (Levels.push i handler hooks j).Pairwise (fun a b => ¬ Alike a b)) ↔
      ∀ a ∈ hooks i, PyCompare.equals handler a = false := by
  constructor
  · intro h a ha
    have hi := h i
    rw [Levels.push_self, List.pairwise_append] at hi
    have halike := hi.2.2 a ha handler (List.mem_singleton_self _)
    exact Bool.eq_false_iff.mpr fun he => halike (.inr he)
  · intro h j
    by_cases hj : j = i
    · subst hj
      rw [Levels.push_self, List.pairwise_append]
      refine ⟨hd j, List.pairwise_singleton _ _, fun a ha b hb => ?_⟩
      rw [List.mem_singleton.mp hb]
      rintro (he | he)
      · exact Bool.eq_false_iff.mp (hnew a ha) he
      · exact Bool.eq_false_iff.mp (h a ha) he
    · rw [Levels.push_of_ne hj]
      exact hd j

theorem pairwise_keepAt {hooks : Hooks H} (hd : ∀ j, (hooks j).Pairwise (fun a b => ¬ Alike a b))
    (i : Fin 5) (p : H → Bool) (j : Fin 5) :
    (Levels.keepAt i p hooks j).Pairwise (fun a b => ¬ Alike a b) := by
  by_cases hj : j = i
  · subst hj
    rw [Levels.keepAt_self]
    exact (hd j).filter _
  · rw [Levels.keepAt_of_ne hj]
    exact hd j

/-! ## Step by step -/

/-- The invariant of the registry: it is some ledger sorted, and `Distinct`. -/
def Consistent (plugins : Plugins H) : Prop :=
  (∃ l : Ledger H, Ledger.Refines l plugins) ∧ Distinct plugins

theorem Consistent.keys_nodup {plugins : Plugins H} (h : Consistent plugins) :
    (plugins.map Prod.fst).Nodup := by
  obtain ⟨⟨l, rfl, hl⟩, -⟩ := h
  rw [Ledger.keys_table]
  exact hl.seen_nodup

theorem Consistent.pairwise {plugins : Plugins H} (h : Consistent plugins) {plugin : String}
    {hooks : Hooks H} (hlook : Assoc.lookup plugin plugins = some hooks) (j : Fin 5) :
    (hooks j).Pairwise (fun a b => ¬ Alike a b) :=
  h.2 _ (Assoc.mem_of_lookup hlook) j

/-- A call that leaves the registry alone keeps the promise, unless it is a
`remove_hook` that claims to have removed something. -/
theorem hookSpec_of_unchanged {plugins : Plugins H} (hd : Distinct plugins)
    {c : CallEnv × HookCall H} {o : Outcome Unit} {queued : List (HookTask H)} (hpanic : o ≠ .panic)
    (hremove : ∀ plugin handler priority, c.2 = .remove plugin handler priority →
      c.1.held = false → o ≠ .ok ()) :
    HookSpec ⟨plugins, c, ⟨o, plugins, queued⟩, plugins⟩ where
  no_panic := hpanic
  unchanged := fun _ _ => rfl
  distinct := hd
  deferred := fun _ => rfl
  removed := fun plugin handler priority hc hheld hok =>
    absurd hok (hremove plugin handler priority hc hheld)

/-- An `add_hook` that stores its handler keeps the promise iff the registry
stays `Distinct`. -/
theorem hookSpec_of_stored {plugins s : Plugins H} {env : CallEnv} (hheld : env.held = false)
    {plugin : String} {handler : H} {priority : Int} {queued : List (HookTask H)} :
    HookSpec ⟨plugins, (env, .add plugin handler priority), ⟨.ok (), s, queued⟩, s⟩ ↔
      Distinct s := by
  constructor
  · exact fun h => h.distinct
  · exact fun h => ⟨by simp, by simp, h, fun hheld' => absurd (hheld.symm.trans hheld') (by simp),
      fun _ _ _ hc => by cases hc⟩

theorem distinct_append_new {plugins : Plugins H} (hd : Distinct plugins) (plugin : String)
    (handler : H) (i : Fin 5) :
    Distinct (plugins ++ [(plugin, Levels.push i handler fun _ => [])]) := by
  intro entry hentry j
  rcases List.mem_append.mp hentry with hmem | hmem
  · exact hd entry hmem j
  · rw [List.mem_singleton.mp hmem]
    by_cases hj : j = i
    · subst hj
      simp [Levels.push_self]
    · simp [Levels.push_of_ne hj]

theorem store_iff {t : DispatcherType} {plugins : Plugins H} (h : Consistent plugins)
    {env : CallEnv} (hpass : AddPasses t env) (hheld : env.held = false) (plugin : String)
    (handler : H) (i : Fin 5) :
    HookSpec ⟨plugins, (env, .add plugin handler i), storeHook plugin handler i plugins,
        (storeHook plugin handler i plugins).state⟩ ↔
      HookGood t plugins (env, .add plugin handler i) := by
  have hi : priorityIndex (i : Int) = some i := priorityIndex_eq_some.mpr rfl
  rcases storeHook_cases plugin handler i plugins with
    ⟨hlook, hs⟩ | ⟨hooks, hlook, ⟨hany, hs⟩ | ⟨hany, hs⟩⟩
  · rw [hs]
    have hdistinct := distinct_append_new h.2 plugin handler i
    refine iff_of_true ((hookSpec_of_stored hheld).mpr hdistinct) ?_
    intro _ _ hooks j hlook'
    cases hlook.symm.trans hlook'
  · rw [hs]
    refine iff_of_true (hookSpec_of_unchanged h.2 (by simp) (fun _ _ _ hc => by cases hc)) ?_
    intro _ _ hooks' j hlook' hj hnew
    cases hlook.symm.trans hlook'
    cases hi.symm.trans hj
    obtain ⟨a, ha, heq⟩ := List.any_eq_true.mp hany
    exact absurd (heq.symm.trans (hnew a ha)) (by simp)
  · have hnew : ∀ a ∈ hooks i, PyCompare.equals a handler = false :=
      fun a ha => Bool.eq_false_iff.mpr (List.any_eq_false.mp hany a ha)
    rw [hs, hookSpec_of_stored hheld, distinct_modify h.keys_nodup hlook h.2,
      pairwise_push (h.pairwise hlook) hnew]
    constructor
    · intro hback _ _ hooks' j hlook' hj _
      cases hlook.symm.trans hlook'
      cases hi.symm.trans hj
      exact hback
    · exact fun hgood => hgood hheld hpass hooks i hlook hi hnew

theorem add_iff (t : DispatcherType) {plugins : Plugins H} (h : Consistent plugins) (env : CallEnv)
    (plugin : String) (handler : H) (priority : Int) :
    HookSpec (Run.take (step t) plugins (env, .add plugin handler priority)) ↔
      HookGood t plugins (env, .add plugin handler priority) := by
  show HookSpec ⟨plugins, _, addHook t env plugin handler priority plugins,
    (addHook t env plugin handler priority plugins).state⟩ ↔ _
  rcases addHook_cases t env plugin handler priority plugins with
    ⟨e, hs⟩ | ⟨name, -, hheld, hs⟩ | ⟨i, rfl, hpass, hheld, hs⟩
  · rw [hs]
    refine iff_of_true (hookSpec_of_unchanged h.2 (by simp) (fun _ _ _ hc => by cases hc)) ?_
    -- a call that fails although it reaches the registry found an equal handler
    intro hheld hpass hooks i hlook hi hnew
    rw [addHook_of_passes hi hpass hheld] at hs
    rcases storeHook_cases plugin handler i plugins with
      ⟨hnone, -⟩ | ⟨hooks', hlook', ⟨hany, -⟩ | ⟨-, hst⟩⟩
    · cases hnone.symm.trans hlook
    · cases hlook.symm.trans hlook'
      obtain ⟨a, ha, heq⟩ := List.any_eq_true.mp hany
      exact absurd (heq.symm.trans (hnew a ha)) (by simp)
    · rw [hst] at hs
      cases hs
  · rw [hs]
    refine iff_of_true (hookSpec_of_unchanged h.2 (by simp) (fun _ _ _ hc => by cases hc)) ?_
    exact fun hfree => absurd (hheld.symm.trans hfree) (by simp)
  · rw [hs]
    exact store_iff h hpass hheld plugin handler i

/-- The registrations left by a `remove_hook` that found one. -/
theorem entries_drop {plugins : Plugins H} (h : Consistent plugins) (plugin : String) (handler : H)
    (i : Fin 5) :
    entries (Assoc.modify plugin (Levels.keepAt i (PyCompare.maybeDiffers · handler)) plugins) =
      (entries plugins).filter (!Ledger.struck plugin i handler ·) := by
  obtain ⟨⟨l, rfl, hl⟩, -⟩ := h
  rw [← Ledger.table_remove hl, entries_remove]

theorem struck_eq_isTarget_iff {plugins : Plugins H} (h : Consistent plugins) {plugin : String}
    {hooks : Hooks H} (hlook : Assoc.lookup plugin plugins = some hooks) (handler : H) (i : Fin 5) :
    (∀ r ∈ entries plugins, Ledger.struck plugin i handler r = isTarget plugin i handler r) ↔
      ∀ a ∈ hooks i, PyCompare.maybeDiffers a handler = !PyCompare.equals a handler := by
  constructor
  · intro hsame a ha
    have := hsame _ (mem_entries_of_lookup hlook ha)
    simp only [Ledger.struck, isTarget, decide_true, Bool.true_and] at this
    rw [← this, Bool.not_not]
  · intro hne r hr
    by_cases hat : r.plugin = plugin ∧ r.priority = i
    · have hmem := mem_of_mem_entries h.keys_nodup hlook hr hat.1 hat.2
      simp [Ledger.struck, isTarget, hat, hne _ hmem]
    · have hat' : ¬ (r.plugin = plugin ∧ (r.priority : Int) = i) := fun hp =>
        hat ⟨hp.1, Fin.ext (Int.ofNat_inj.mp hp.2)⟩
      simp only [Ledger.struck, isTarget, ← Bool.decide_and, decide_eq_false hat,
        decide_eq_false hat', Bool.false_and]

theorem exists_isTarget_iff {plugins : Plugins H} (h : Consistent plugins) {plugin : String}
    {hooks : Hooks H} (hlook : Assoc.lookup plugin plugins = some hooks) (handler : H) (i : Fin 5) :
    (∃ r ∈ entries plugins, isTarget plugin i handler r = true) ↔
      ∃ a ∈ hooks i, PyCompare.equals a handler = true := by
  constructor
  · rintro ⟨r, hr, ht⟩
    simp only [isTarget, Bool.and_eq_true, decide_eq_true_eq] at ht
    obtain ⟨⟨hp, hi⟩, he⟩ := ht
    have hi' : r.priority = i := Fin.ext (Int.ofNat_inj.mp hi)
    exact ⟨r.handler, mem_of_mem_entries h.keys_nodup hlook hr hp hi', he⟩
  · rintro ⟨a, ha, he⟩
    exact ⟨_, mem_entries_of_lookup hlook ha, by simp [isTarget, he]⟩

/-- A `remove_hook` that reaches the registry. -/
theorem drop_iff {t : DispatcherType} {plugins : Plugins H} (h : Consistent plugins) {env : CallEnv}
    (hname : t.name ≠ none) (hheld : env.held = false) (plugin : String) (handler : H)
    (priority : Int) :
    HookSpec ⟨plugins, (env, .remove plugin handler priority),
        dropHook plugin handler priority plugins,
        (dropHook plugin handler priority plugins).state⟩ ↔
      HookGood t plugins (env, .remove plugin handler priority) := by
  rcases dropHook_cases plugin handler priority plugins with
    ⟨hlook, hs⟩ | ⟨hooks, hlook, ⟨hi, hs⟩ | ⟨i, hi, ⟨hany, hs⟩ | ⟨hany, hs⟩⟩⟩
  · rw [hs]
    refine iff_of_true (hookSpec_of_unchanged h.2 (by simp) (by simp)) ?_
    intro _ _ hooks hlook'
    cases hlook.symm.trans hlook'
  · -- the plugin has lists, but none for the priority
    rw [hs]
    refine iff_of_false (fun hspec => hspec.no_panic rfl) fun hgood => ?_
    obtain ⟨i, hi', -⟩ := hgood hheld hname hooks hlook
    cases hi.symm.trans hi'
  · rw [hs]
    refine iff_of_true (hookSpec_of_unchanged h.2 (by simp) (by simp)) ?_
    intro _ _ hooks' hlook'
    cases hlook.symm.trans hlook'
    refine ⟨i, hi, fun ⟨a, ha, he⟩ => ?_⟩
    exact absurd he (List.any_eq_false.mp hany a ha)
  · -- the list is filtered by `!=`, and the promise is about `==`
    obtain rfl := priorityIndex_eq_some.mp hi
    have hdistinct := (distinct_modify h.keys_nodup hlook h.2
      (Levels.keepAt i (PyCompare.maybeDiffers · handler))).mpr
      (pairwise_keepAt (h.pairwise hlook) i _)
    have hremoves : Filtering.Removes (isTarget plugin i handler) (entries plugins)
          (entries (Assoc.modify plugin
            (Levels.keepAt i (PyCompare.maybeDiffers · handler)) plugins)) ↔
        (∃ a ∈ hooks i, PyCompare.equals a handler = true) ∧
          ∀ a ∈ hooks i, PyCompare.maybeDiffers a handler = !PyCompare.equals a handler := by
      rw [entries_drop h, Filtering.removes_filter_iff, exists_isTarget_iff h hlook,
        struck_eq_isTarget_iff h hlook]
    rw [hs]
    constructor
    · intro hspec _ _ hooks' hlook'
      cases hlook.symm.trans hlook'
      exact ⟨i, hi, fun _ => hremoves.mp (hspec.removed plugin handler i rfl hheld rfl)⟩
    · intro hgood
      obtain ⟨j, hj, hfound⟩ := hgood hheld hname hooks hlook
      cases hi.symm.trans hj
      refine ⟨by simp, by simp, hdistinct, fun hheld' => absurd (hheld.symm.trans hheld') (by simp),
        ?_⟩
      rintro _ _ _ ⟨⟩ - -
      exact hremoves.mpr (hfound (List.any_eq_true.mp hany))

theorem remove_iff (t : DispatcherType) {plugins : Plugins H} (h : Consistent plugins)
    (env : CallEnv) (plugin : String) (handler : H) (priority : Int) :
    HookSpec (Run.take (step t) plugins (env, .remove plugin handler priority)) ↔
      HookGood t plugins (env, .remove plugin handler priority) := by
  show HookSpec ⟨plugins, _, removeHook t env plugin handler priority plugins,
    (removeHook t env plugin handler priority plugins).state⟩ ↔ _
  rcases removeHook_cases t env plugin handler priority plugins with
    ⟨e, hs⟩ | ⟨name, -, hheld, hs⟩ | ⟨hname, hheld, hs⟩
  · rw [hs]
    refine iff_of_true (hookSpec_of_unchanged h.2 (by simp) (by simp)) ?_
    intro hheld hname hooks hlook
    rw [removeHook_of_named hname hheld] at hs
    rcases dropHook_cases plugin handler priority plugins with
      ⟨hnone, -⟩ | ⟨hooks', hlook', ⟨-, hd⟩ | ⟨i, hi, ⟨hany, -⟩ | ⟨-, hd⟩⟩⟩
    · cases hnone.symm.trans hlook
    · cases hd.symm.trans hs
    · cases hlook.symm.trans hlook'
      exact ⟨i, hi, fun ⟨a, ha, he⟩ => absurd he (List.any_eq_false.mp hany a ha)⟩
    · cases hd.symm.trans hs
  · rw [hs]
    refine iff_of_true (hookSpec_of_unchanged h.2 (by simp) ?_) ?_
    · rintro _ _ _ ⟨⟩ hfree
      exact absurd (hheld.symm.trans hfree) (by simp)
    · exact fun hfree => absurd (hheld.symm.trans hfree) (by simp)
  · rw [hs]
    exact drop_iff h hname hheld plugin handler priority

theorem hookSpec_iff (t : DispatcherType) {plugins : Plugins H} (h : Consistent plugins)
    (c : CallEnv × HookCall H) : HookSpec (Run.take (step t) plugins c) ↔ HookGood t plugins c := by
  obtain ⟨env, call⟩ := c
  cases call with
  | add plugin handler priority => exact add_iff t h env plugin handler priority
  | remove plugin handler priority => exact remove_iff t h env plugin handler priority

theorem consistent_step (t : DispatcherType) {plugins : Plugins H} (h : Consistent plugins)
    (c : CallEnv × HookCall H) (hgood : HookGood t plugins c) :
    Consistent (step t plugins c).2 := by
  have hdistinct := ((hookSpec_iff t h c).mpr hgood).distinct
  obtain ⟨⟨l, hl⟩, -⟩ := h
  exact ⟨⟨_, Ledger.refines_step t hl c⟩, hdistinct⟩

theorem consistent_empty : Consistent ([] : Plugins H) :=
  ⟨⟨_, Ledger.refines_empty⟩, by simp [Distinct]⟩

/-- **When the hook registry keeps its promise.**  Along any run of calls from
the empty registry, every call keeps it iff every call is `HookGood` in the
registry it finds. -/
theorem hookSpec_run_iff (t : DispatcherType) (cs : List (CallEnv × HookCall H)) :
    (∀ st ∈ Run.steps (step t) [] cs, HookSpec st) ↔
      ∀ st ∈ Run.steps (step t) [] cs, HookGood t st.before st.call :=
  Run.forall_steps_iff Consistent (fun _ c h => hookSpec_iff t h c)
    (fun _ c h => consistent_step t h c) consistent_empty cs

/-- `remove_hook` with priority 5 panics, and removing a handler whose comparisons
raise is accepted but removes nothing. -/
theorem hookSpec_run_broken :
    (¬ ∀ st ∈ Run.steps (step ⟨some "chat", some false⟩) []
        [(⟨false, .ok none, .ok ()⟩, .add "fun" (PyFunction.mk 0) 2),
          (⟨false, .ok none, .ok ()⟩, .remove "fun" (PyFunction.mk 0) 5)], HookSpec st) ∧
      ¬ ∀ st ∈ Run.steps (step ⟨some "chat", some false⟩) []
        [(⟨false, .ok none, .ok ()⟩, .add "fun" Raiser.handler 2),
          (⟨false, .ok none, .ok ()⟩, .remove "fun" Raiser.handler 2)], HookSpec st := by
  constructor
  · intro h
    have hlast := h _ (List.mem_cons_of_mem _ (List.mem_cons_self ..))
    exact hlast.no_panic (by decide)
  · intro h
    have hlast := h _ (List.mem_cons_of_mem _ (List.mem_cons_self ..))
    exact absurd (hlast.removed "fun" .handler 2 rfl rfl (by decide)).shorter (by decide)

end EventDispatcher
end ShinQlx
