import ShinQlx.Run
import ShinQlx.VariableLookup

/-! # Updating the object that stands for a player

`update` replaces the `PlayerInfo` of an object and the name, but not the object's own copy
of the userinfo, which all getters of userinfo variables read.  Where another player has the
slot by now, it has replaced the `PlayerInfo` before it finds out, and what is read from
there, or asked about the slot, is about the other player.

`updates_iff` says in which runs of changes and updates the objects are what they should be:
after an update that succeeded they answer like a new object, and after one that found
another player they have nothing of that player.
-/
namespace ShinQlx
namespace PlayerObject
variable {F S T : Type}

/-- The answers of the getters that read the userinfo. -/
structure UserinfoAnswers (F : Type) where
  contains : String → PyResult Bool
  getItem : String → PyResult String
  cvars : PyResult PyDict
  ip : String
  qport : Int
  colors : F × F
  model : PyResult String
  headmodel : PyResult String
  handicap : PyResult String
  country : PyResult String
  autohop : PyResult Int
  autoaction : PyResult Int
  predictitems : PyResult Int

/-- The answers of all getters. -/
structure Answers (F S T : Type) where
  userinfo : UserinfoAnswers F
  steamId : Int
  id : Int
  name : String
  cleanName : String
  clan : String
  team : PyResult String
  connectionState : PyResult String
  privileges : Option String
  valid : Bool
  state : PyResult (Option S)
  stats : PyResult (Option T)

/-- What an object answers from its userinfo. -/
def userinfoAnswers (w : PlayerWorld F) (p : PlayerObject) : UserinfoAnswers F :=
  { contains := p.contains w
    getItem := p.getItem w
    cvars := p.getCvars
    ip := p.getIp w
    qport := p.getQport w
    colors := p.getColors w
    model := p.getModel w
    headmodel := p.getHeadmodel w
    handicap := p.getHandicap w
    country := p.getCountry w
    autohop := p.getAutohop w
    autoaction := p.getAutoaction w
    predictitems := p.getPredictitems w }

/-- What an object answers. -/
def answers (w : PlayerWorld F) (engine : PlayerEngine S T) (p : PlayerObject) :
    Answers F S T :=
  { userinfo := p.userinfoAnswers w
    steamId := p.steamId
    id := p.id
    name := p.getName
    cleanName := p.getCleanName
    clan := p.getClan w engine
    team := p.getTeam
    connectionState := p.getConnectionState
    privileges := p.getPrivileges
    valid := p.valid
    state := p.getState engine
    stats := p.getStats engine }

/-! ## Runs -/

/-- The engine and an object. -/
structure Game (S T : Type) where
  engine : PlayerEngine S T
  player : PlayerObject

/-- What happens: the engine changes, or the object is updated. -/
inductive Call (F S T : Type) where
  | engine (engine : PlayerEngine S T)
  | update (w : PlayerWorld F)

/-- A step of a run. -/
def step (g : Game S T) : Call F S T → PyResult Unit × Game S T
  | .engine engine => (.ok (), { g with engine := engine })
  | .update w =>
    let (result, player) := g.player.update w g.engine
    (result, { g with player := player })

/-- Another player has the slot of an object. -/
def TakenOver (engine : PlayerEngine S T) (p : PlayerObject) : Prop :=
  ∃ client, engine.client p.id = some client ∧ client.state ≠ 0 ∧
    (client.steamId : Int).bmod (2 ^ 64) ≠ p.steamId

/-- An object answers what a new object made of its `PlayerInfo` answers. -/
def ReadsCurrent (F : Type) (engine : PlayerEngine S T) (p : PlayerObject) : Prop :=
  ∀ w : PlayerWorld F,
    p.userinfoAnswers w = (pyNew w engine p.id (some p.playerInfo)).userinfoAnswers w

/-- Nothing that the object answers after an update depends on which other player has the
slot. -/
def Isolated (w : PlayerWorld F) (engine : PlayerEngine S T) (p : PlayerObject) : Prop :=
  ∀ (v : PlayerWorld F) (other : PlayerEngine S T), TakenOver other p →
    (p.update w other).2.answers v other = (p.update w engine).2.answers v engine

/-- What an update should come to. -/
structure UpdateSpec (st : Run.Step (Game S T) (Call F S T) (PyResult Unit)) : Prop where
  current : ∀ w, st.call = .update w → st.result = .ok () →
    st.after.player.playerInfo = .ofId st.before.engine st.before.player.id ∧
      st.after.player.name = nameOf w st.after.player.playerInfo ∧
      ReadsCurrent F st.before.engine st.after.player
  gone : ∀ w e, st.call = .update w → st.result = .error e →
    TakenOver st.before.engine st.before.player →
      st.after.player.valid = false ∧ Isolated w st.before.engine st.before.player

/-- Two userinfos with the same variables: they make the same dict, and a lookup in one finds
what it finds in the other. -/
structure SameVariables (old new : String) : Prop where
  dict : ClientCommand.intoPyDict (parseVariables old) =
    ClientCommand.intoPyDict (parseVariables new)
  lookup : ∀ key pick, (parseVariables old).get pick key = (parseVariables new).get pick key

/-- An update that finds the player, while the object is valid and the player's userinfo has
the variables that it had when the object was made; or one that finds nobody. -/
def Harmless (g : Game S T) : Call F S T → Prop
  | .engine _ => True
  | .update _ =>
    if (FullPlayerInfo.ofId g.engine g.player.id).steamId = g.player.steamId then
      g.player.valid = true ∧
        SameVariables g.player.userInfo (FullPlayerInfo.ofId g.engine g.player.id).userinfo
    else ¬ TakenOver g.engine g.player

/-! ## An update that finds the player -/

theorem update_ok {w : PlayerWorld F} {engine : PlayerEngine S T} {p : PlayerObject}
    (h : (FullPlayerInfo.ofId engine p.id).steamId = p.steamId) :
    p.update w engine =
      (.ok (), { p with
        playerInfo := .ofId engine p.id, name := nameOf w (.ofId engine p.id) }) := by
  rw [update]
  simp [h]

theorem update_error {w : PlayerWorld F} {engine : PlayerEngine S T} {p : PlayerObject}
    (h : (FullPlayerInfo.ofId engine p.id).steamId ≠ p.steamId) :
    p.update w engine =
      (.error nonexistent, { p with playerInfo := .ofId engine p.id, valid := false }) := by
  rw [update]
  simp [h]

/-- What is answered from the userinfo depends on the mark and on the variables only. -/
theorem userinfoAnswers_congr {w : PlayerWorld F} {p q : PlayerObject} (hvalid : p.valid = q.valid)
    (h : SameVariables p.userInfo q.userInfo) : p.userinfoAnswers w = q.userinfoAnswers w := by
  have hfind : p.find w = q.find w := funext fun item => h.lookup item (w.pick item)
  have hrequired : p.required w = q.required w := by
    funext item
    rw [required, required, hfind]
  have hrequiredInt : p.requiredInt w = q.requiredInt w := by
    funext item
    rw [requiredInt, requiredInt, hfind]
  have hcvars : p.getCvars = q.getCvars := by
    rw [getCvars, getCvars, vars, vars, hvalid, h.dict]
  have hcontains : p.contains w = q.contains w := by
    funext item
    rw [contains, contains, hvalid, hfind]
  have hgetItem : p.getItem w = q.getItem w := by
    funext item
    rw [getItem, getItem, hvalid, hrequired]
  simp only [userinfoAnswers, hcontains, hgetItem, hcvars, getIp, getQport, getColors, getModel,
    getHeadmodel, getHandicap, getCountry, getAutohop, getAutoaction, getPredictitems, hfind,
    hrequired, hrequiredInt]

theorem valid_of_getCvars {p : PlayerObject} {d : PyDict} (h : p.getCvars = .ok d) :
    p.valid = true ∧ ClientCommand.intoPyDict p.vars = d := by
  rw [getCvars] at h
  cases hvalid : p.valid with
  | false => simp [hvalid] at h
  | true => exact ⟨rfl, by simpa [hvalid] using h⟩

theorem getItem_of_valid {w : PlayerWorld F} {p : PlayerObject} (h : p.valid = true)
    {item : String} : p.getItem w item = p.required w item := by
  rw [getItem, h]
  rfl

theorem required_inj {w : PlayerWorld F} {p q : PlayerObject} {item : String}
    (h : p.required w item = q.required w item) : p.find w item = q.find w item := by
  rw [required, required] at h
  cases hp : p.find w item <;> cases hq : q.find w item <;> simp_all

/-- An object answers like a new one iff it is valid and has the same variables. -/
theorem readsCurrent_iff (w : PlayerWorld F) {engine : PlayerEngine S T} {p : PlayerObject} :
    ReadsCurrent F engine p ↔
      p.valid = true ∧ SameVariables p.userInfo p.playerInfo.userinfo := by
  constructor
  · intro h
    obtain ⟨hvalid, hdict⟩ := valid_of_getCvars (congrArg UserinfoAnswers.cvars (h w))
    refine ⟨hvalid, hdict, fun key pick => ?_⟩
    -- a search that chooses in this way for each key
    let v : PlayerWorld F := { w with pick := fun _ => pick }
    have hitem : p.getItem v key = (pyNew v engine p.id (some p.playerInfo)).getItem v key :=
      congrFun (congrArg UserinfoAnswers.getItem (h v)) key
    rw [getItem_of_valid hvalid, getItem_of_valid rfl] at hitem
    exact required_inj hitem
  · rintro ⟨hvalid, hsame⟩ v
    have hnew : (pyNew v engine p.id (some p.playerInfo)).userInfo = p.playerInfo.userinfo := rfl
    rw [← hnew] at hsame
    exact userinfoAnswers_congr hvalid hsame

/-- Where no key has two values, userinfos with the same dict have the same variables. -/
theorem sameVariables_iff_dict {old new : String}
    (hold : ParsedVariables.SingleValued (parseVariables old))
    (hnew : ParsedVariables.SingleValued (parseVariables new)) :
    SameVariables old new ↔ ClientCommand.intoPyDict (parseVariables old) =
      ClientCommand.intoPyDict (parseVariables new) := by
  refine ⟨fun h => h.dict, fun h => ⟨h, fun key pick => ?_⟩⟩
  rw [ParsedVariables.get_eq_inDict hold, ParsedVariables.get_eq_inDict hnew, h]

/-! ## An update that finds another player -/

/-- The steam id is that of the client. -/
theorem steamId_ofId {engine : PlayerEngine S T} {id : Int} {client : ClientSlot}
    (h : engine.client id = some client) :
    (FullPlayerInfo.ofId engine id).steamId = (client.steamId : Int).bmod (2 ^ 64) := by
  simp [FullPlayerInfo.ofId, h]

theorem connectionState_ofId {engine : PlayerEngine S T} {id : Int} {client : ClientSlot}
    (h : engine.client id = some client) :
    (FullPlayerInfo.ofId engine id).connectionState = client.state := by
  simp [FullPlayerInfo.ofId, h]

theorem steamId_ne_of_takenOver {engine : PlayerEngine S T} {p : PlayerObject}
    (h : TakenOver engine p) : (FullPlayerInfo.ofId engine p.id).steamId ≠ p.steamId := by
  obtain ⟨client, hclient, -, hne⟩ := h
  rwa [steamId_ofId hclient]

/-- The same engine with another state of a client. -/
def withState (engine : PlayerEngine S T) (id state : Int) : PlayerEngine S T :=
  { engine with
    client := fun i =>
      if i = id then (engine.client i).map fun client => { client with state := state }
      else engine.client i }

theorem takenOver_withState {engine : PlayerEngine S T} {p : PlayerObject}
    (h : TakenOver engine p) (state : Int) (hstate : state ≠ 0) :
    TakenOver (withState engine p.id state) p := by
  obtain ⟨client, hclient, -, hne⟩ := h
  exact ⟨{ client with state := state }, by simp [withState, hclient], hstate, hne⟩

/-- After an update that found another player, its connection state is answered. -/
theorem connectionState_of_takenOver {w v : PlayerWorld F} {engine : PlayerEngine S T}
    {p : PlayerObject} (h : TakenOver engine p) {state : Int} (hstate : state ≠ 0) :
    ((p.update w (withState engine p.id state)).2.answers v
        (withState engine p.id state)).connectionState =
      getConnectionState
        { p with playerInfo := { p.playerInfo with connectionState := state } } := by
  have hne := steamId_ne_of_takenOver (takenOver_withState h state hstate)
  obtain ⟨client, hclient, -, -⟩ := h
  have hnew : (withState engine p.id state).client p.id = some { client with state := state } := by
    simp [withState, hclient]
  rw [update_error hne]
  simp only [answers, getConnectionState]
  rw [connectionState_ofId hnew]

theorem not_isolated (w : PlayerWorld F) {engine : PlayerEngine S T} {p : PlayerObject}
    (h : TakenOver engine p) : ¬ Isolated w engine p := by
  intro hisolated
  have hprimed := hisolated w _ (takenOver_withState h 3 (by decide))
  have hactive := hisolated w _ (takenOver_withState h 4 (by decide))
  have hsame := congrArg Answers.connectionState (hprimed.trans hactive.symm)
  rw [connectionState_of_takenOver h (by decide),
    connectionState_of_takenOver h (by decide)] at hsame
  exact absurd hsame (by simp [getConnectionState])

/-! ## Runs of updates -/

theorem updateSpec_iff (g : Game S T) (c : Call F S T) :
    UpdateSpec (Run.take step g c) ↔ Harmless g c := by
  cases c with
  | engine engine =>
    refine ⟨fun _ => trivial, fun _ => ⟨fun w h => ?_, fun w e h => ?_⟩⟩ <;> cases h
  | update w =>
    rw [Harmless]
    split
    next hsteam =>
      have hupdate := update_ok (w := w) hsteam
      have htake : Run.take step g (.update w) = ⟨g, .update w, .ok (), ⟨g.engine, { g.player with
          playerInfo := .ofId g.engine g.player.id
          name := nameOf w (.ofId g.engine g.player.id) }⟩⟩ := by
        simp [Run.take, step, hupdate]
      rw [htake]
      constructor
      · intro h
        exact (readsCurrent_iff w).mp (h.current w rfl rfl).2.2
      · intro h
        refine ⟨fun v hv _ => ?_, fun v e _ he => ?_⟩
        · cases hv
          exact ⟨rfl, rfl, (readsCurrent_iff w).mpr h⟩
        · cases he
    next hsteam =>
      have hupdate := update_error (w := w) hsteam
      have htake : Run.take step g (.update w) = ⟨g, .update w, .error nonexistent, ⟨g.engine,
          { g.player with playerInfo := .ofId g.engine g.player.id, valid := false }⟩⟩ := by
        simp [Run.take, step, hupdate]
      rw [htake]
      constructor
      · intro h htaken
        exact not_isolated w htaken (h.gone w _ rfl rfl htaken).2
      · intro h
        refine ⟨fun v _ hok => ?_, fun v e _ _ htaken => absurd htaken h⟩
        cases hok

/-- **The updates of a run are what they should be iff all of them are harmless.** -/
theorem updates_iff (g : Game S T) (calls : List (Call F S T)) :
    (∀ st ∈ Run.steps step g calls, UpdateSpec st) ↔
      ∀ st ∈ Run.steps step g calls, Harmless st.before st.call :=
  Run.forall_steps_iff (fun _ => True) (fun g c _ => updateSpec_iff g c) (fun _ _ _ _ => trivial)
    trivial calls

/-- An engine in which every slot has a player with a userinfo and a steam id. -/
def fullEngine (userInfo : String) (steamId : Nat) : PlayerEngine Unit Unit :=
  { entity := fun _ => some ⟨"player", 0, 0⟩
    client := fun _ => some ⟨4, userInfo, steamId⟩
    configstring := none
    playerState := fun _ => .ok none
    playerStats := fun _ => .ok none }

/-- Searches that come up with the first item. -/
def firstFound : PlayerWorld Unit := ⟨fun _ => 0, fun _ => none, ()⟩

/-- A player that takes another model, before the object is updated. -/
theorem not_updateSpec_model :
    ¬ ∀ st ∈ Run.steps step
        ⟨fullEngine "\\model\\sarge" 7, pyNew firstFound (fullEngine "\\model\\sarge" 7) 0 none⟩
        [.engine (fullEngine "\\model\\doom" 7), .update firstFound], UpdateSpec st := by
  intro h
  have hupdate := (updateSpec_iff _ _).mp (h _ (List.mem_cons_of_mem _ List.mem_cons_self))
  exact absurd (hupdate.2.lookup "model" 0) (by decide +kernel)

end PlayerObject
end ShinQlx
