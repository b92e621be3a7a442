import ShinQlx.Assoc
import ShinQlx.Ownership
import ShinQlx.Python
import ShinQlx.Run
import ShinQlx.Text

/-! # Redis connections

The class `Redis` keeps the connection that is made from the configuration, for all of its
instances, and the pool behind it, in its attributes `_conn` and `_pool`; an instance that
connects to a host of its own keeps that connection in attributes of the same names.  What an
instance does not have is looked up in the class, and what the class does not have is `None`.

`redis_sharing` says what holds after every sequence of calls.  The connection of an instance
is handed out to that instance only, for good, and there is one default connection for all the
others, which is dropped by the last instance at the earliest.  An instance with a connection
of its own gets that one, whatever it asks for.  Nothing is said about a host that is asked for
while the default connection is open, nor about a pool that an instance closes without having
an attribute for it.
-/
namespace ShinQlx

/-- The keyword arguments of a call into the package `redis`. -/
abbrev Kwargs := List (String × PyScalar)

/-- A `redis.ConnectionPool`. -/
structure RedisPool where
  id : Nat
  kwargs : Kwargs
  deriving DecidableEq, Repr

/-- A `redis.Redis`, with the pool it was given. -/
structure RedisClient where
  id : Nat
  pool : Option RedisPool
  kwargs : Kwargs
  deriving DecidableEq, Repr

/-- What a connection is made with. -/
structure RedisSettings where
  host : String
  database : Int
  unixSocket : Bool
  password : PyScalar

/-- The attributes that an instance has itself. -/
structure RedisInstance where
  conn : Option (Option RedisClient)
  pool : Option (Option RedisPool)

/-- The instances that are alive, the attributes of the class, how many objects were made, and
the pools that were disconnected, the last one at the end. -/
structure RedisState where
  instances : List (Nat × RedisInstance)
  conn : Option RedisClient
  pool : Option RedisPool
  counter : Int
  made : Nat
  disconnected : List Nat

/-- What happens to instances: one is created, connects, for the cvars that the engine has at
that time, closes, or is destroyed. -/
inductive RedisCall where
  | create
  | connect (i : Nat) (engine : Option (String → Option String)) (host : Option String)
      (database : Int) (unixSocket : Bool) (password : Option String)
  | close (i : Nat)
  | destroy (i : Nat)

/-- The instance that a method is called on. -/
def RedisCall.target : RedisCall → Option Nat
  | .create => none
  | .connect i .. | .close i | .destroy i => some i

namespace Redis
open Ownership

/-- Before the first instance. -/
def initial : RedisState := ⟨[], none, none, 0, 0, []⟩

/-- `getattr` of an attribute that the class may have as well. -/
def getattr {α : Type} (attr : Option (Option α)) (inherited : Option α) : Option α :=
  attr.getD inherited

/-- The value of a calculation with an `i32`, in a release build. -/
def wrapI32 (i : Int) : Int := i.bmod (2 ^ 32)

/-- An instance with other attributes. -/
def setattr (i : Nat) (self : RedisInstance) (s : RedisState) : RedisState :=
  { s with instances := Assoc.modify i (fun _ => self) s.instances }

/-- `Redis::py_new` -/
def pyNew (s : RedisState) : RedisState :=
  { s with
    instances := s.instances ++ [(s.made, ⟨none, none⟩)]
    counter := wrapI32 (s.counter + 1)
    made := s.made + 1 }

/-- What the cvars say about the default connection. -/
def defaultSettings (engine : Option (String → Option String)) : PyResult RedisSettings :=
  match engine with
  | none => .error (.environmentError "could not get access to main engine.")
  | some findCvar =>
    match findCvar "qlx_redisAddress" with
    | none => .error (.valueError "cvar qlx_redisAddress misconfigured")
    | some host =>
      match (findCvar "qlx_redisDatabase").bind (Text.parseInt 64) with
      | none => .error (.valueError "cvar qlx_redisDatabase misconfigured.")
      | some database =>
        match findCvar "qlx_redisUnixSocket" with
        | none => .error (.valueError "cvar qlx_redisUnixSocket misconfigured.")
        | some unixSocket =>
          match findCvar "qlx_redisPassword" with
          | none => .error (.valueError "cvar qlx_redisPassword misconfigured.")
          | some password =>
            .ok ⟨host, database, unixSocket ≠ "" && unixSocket ≠ "0", .str password⟩

/-- The pool and the client that are made for some settings.  There is no pool for a unix
socket. -/
def newClient (made : Nat) (settings : RedisSettings) : Option RedisPool × RedisClient :=
  if settings.unixSocket then
    (none, ⟨made + 1, none, [("unix_socket_path", .str settings.host),
      ("db", .int settings.database), ("password", settings.password),
      ("decode_responses", .bool true), ("socket_timeout", .none), ("protocol", .int 2)]⟩)
  else
    let (hostname, port) := (Text.splitOnce ':' settings.host).getD (settings.host, "6379")
    let port := if port = "" then "6379" else port
    let pool : RedisPool := ⟨made, [("host", .str hostname), ("port", .str port),
      ("db", .int settings.database), ("password", settings.password),
      ("decode_responses", .bool true)]⟩
    (some pool, ⟨made + 1, some pool, [("decode_responses", .bool true)]⟩)

/-- `AbstractDatabaseMethods::connect`: the connection of the class is made.  Only a new pool
replaces that of the class. -/
def connectDefault (i : Nat) (self : RedisInstance) (engine : Option (String → Option String))
    (s : RedisState) : PyResult (Option RedisClient) × RedisState :=
  match defaultSettings engine with
  | .error e => (.error e, s)
  | .ok settings =>
    let (pool, client) := newClient s.made settings
    -- with a `None` of its own, the instance goes on to ask the class
    (.ok (some client), { setattr i { self with conn := some none } s with
      conn := some client
      pool := pool.or s.pool
      made := s.made + 2 })

/-- `RedisMethods::connect_with_parameters`: a connection of the instance is made.  Only a new
pool replaces the one it has. -/
def connectWithParameters (i : Nat) (self : RedisInstance) (settings : RedisSettings)
    (s : RedisState) : PyResult (Option RedisClient) × RedisState :=
  let (pool, client) := newClient s.made settings
  (.ok (some client), { setattr i ⟨some (some client), (pool.map some).or self.pool⟩ s with
    made := s.made + 2 })

/-- `Redis::connect`.  Both methods return a connection that is found, first in the instance
and then in the class. -/
def connect (i : Nat) (self : RedisInstance) (engine : Option (String → Option String))
    (host : Option String) (database : Int) (unixSocket : Bool) (password : Option String)
    (s : RedisState) : PyResult (Option RedisClient) × RedisState :=
  match getattr self.conn s.conn with
  | some client => (.ok (some client), s)
  | none =>
    match s.conn with
    -- whether there is a host or not
    | some client => (.ok (some client), s)
    | none =>
      match host with
      | none => connectDefault i self engine s
      | some host =>
        let password := (password.map PyScalar.str).getD .none
        connectWithParameters i self ⟨host, database, unixSocket, password⟩ s

/-- The first half of `close`: the connection that the instance finds. -/
def closeOwn (i : Nat) (self : RedisInstance) (s : RedisState) : RedisState :=
  match getattr self.conn s.conn with
  | none => s
  | some _ =>
    -- without an attribute of its own, the instance finds the pool of the class
    match getattr self.pool s.pool with
    | none => setattr i { self with conn := some none } s
    | some pool =>
      { setattr i ⟨some none, some none⟩ s with disconnected := s.disconnected ++ [pool.id] }

/-- The second half of `close`: the connection of the class, for the last instance. -/
def closeDefault (s : RedisState) : RedisState :=
  if s.counter ≤ 1 && s.conn.isSome then
    match s.pool with
    | none => { s with conn := none }
    | some pool =>
      { s with conn := none, pool := none, disconnected := s.disconnected ++ [pool.id] }
  else s

/-- `AbstractDatabaseMethods::close` -/
def close (i : Nat) (self : RedisInstance) (s : RedisState) : RedisState :=
  closeDefault (closeOwn i self s)

/-- `Redis::__del__`, after which the instance is gone. -/
def del (i : Nat) (self : RedisInstance) (s : RedisState) : RedisState :=
  let s := close i self s
  { s with instances := Assoc.erase i s.instances, counter := max 0 (wrapI32 (s.counter - 1)) }

/-- A call, of which only `connect` returns something.  Nothing can be called on an instance
that is not there. -/
def step (s : RedisState) (call : RedisCall) : PyResult (Option RedisClient) × RedisState :=
  match call with
  | .create => (.ok none, pyNew s)
  | .connect i engine host database unixSocket password =>
    match Assoc.lookup i s.instances with
    | none => (.ok none, s)
    | some self => connect i self engine host database unixSocket password s
  | .close i =>
    match Assoc.lookup i s.instances with
    | none => (.ok none, s)
    | some self => (.ok none, close i self s)
  | .destroy i =>
    match Assoc.lookup i s.instances with
    | none => (.ok none, s)
    | some self => (.ok none, del i self s)

/-! ## What is promised -/

/-- The instance is alive. -/
def Live (s : RedisState) (i : Nat) : Prop := (Assoc.lookup i s.instances).isSome

/-- The open connection that an instance has itself. -/
def own (s : RedisState) (i : Nat) : Option RedisClient :=
  (Assoc.lookup i s.instances).bind (·.conn.join)

/-- The instance finds a connection, but has no attribute for a pool: `close` finds the pool
of the class. -/
def InheritsPool (s : RedisState) (i : Nat) : Prop :=
  ∃ self, Assoc.lookup i s.instances = some self ∧ getattr self.conn s.conn ≠ none ∧
    self.pool = none

/-- In a whole run, the connection is handed out to the instance only, and is never that of
the class. -/
def PrivateTo (i : Nat) (client : RedisClient) (calls : List RedisCall) : Prop :=
  ∀ st ∈ Run.steps step initial calls,
    (st.result = .ok (some client) → st.call.target = some i) ∧ st.after.conn ≠ some client

/-- How connections are shared in the state that some calls lead to. -/
structure Sharing (calls : List RedisCall) (s : RedisState) : Prop where
  connectHost : ∀ i engine host database unixSocket password,
    Live s i → own s i = none → s.conn = none →
      let call := RedisCall.connect i engine (some host) database unixSocket password
      ∃ client, (step s call).1 = .ok (some client) ∧
        ∀ later, PrivateTo i client (calls ++ call :: later)
  connectOwn : ∀ i engine database unixSocket password client, own s i = some client →
    step s (.connect i engine none database unixSocket password) = (.ok (some client), s)
  connectShared : ∀ i engine database unixSocket password client,
    Live s i → own s i = none → s.conn = some client →
      step s (.connect i engine none database unixSocket password) = (.ok (some client), s)
  connectDefault : ∀ i engine database unixSocket password settings,
    Live s i → own s i = none → s.conn = none → defaultSettings engine = .ok settings →
      let call := RedisCall.connect i engine none database unixSocket password
      let client := (newClient s.made settings).2
      (step s call).1 = .ok (some client) ∧ (step s call).2.conn = some client ∧
        ∀ j, (Live (step s call).2 j ↔ Live s j) ∧ own (step s call).2 j = own s j
  close : ∀ i j call, call = .close i ∨ call = .destroy i → Live s j → j ≠ i →
    let t := (step s call).2
    t.conn = s.conn ∧ t.pool = s.pool ∧
      (¬ InheritsPool s i → ∃ ids, t.disconnected = s.disconnected ++ ids ∧
        ∀ pool, s.pool = some pool → pool.id ∉ ids)
  counter : s.counter = s.instances.length

/-! ## What the calls do -/

theorem newClient_id (made : Nat) (settings : RedisSettings) :
    (newClient made settings).2.id = made + 1 ∧
      ∀ pool, (newClient made settings).1 = some pool → pool.id = made := by
  unfold newClient
  split
  · exact ⟨rfl, fun pool h => by cases h⟩
  · refine ⟨rfl, fun pool h => ?_⟩
    rw [← Option.some.inj h]

/-- What an instance without a connection of its own finds is the one of the class. -/
theorem getattr_of_join {α : Type} {attr : Option (Option α)} (h : attr.join = none)
    (inherited : Option α) :
    getattr attr inherited = none ∨ getattr attr inherited = inherited := by
  cases attr with
  | none => exact .inr rfl
  | some attr =>
    obtain rfl : attr = none := h
    exact .inl rfl

section calls
variable {i : Nat} {self : RedisInstance} {s : RedisState}

theorem closeOwn_spec (hi : Assoc.lookup i s.instances = some self) :
    ∃ self' ids, closeOwn i self s = { setattr i self' s with
        disconnected := s.disconnected ++ ids } ∧
      (self'.conn = self.conn ∨ self'.conn = some none) ∧
      (self'.pool = self.pool ∨ self'.pool = some none) ∧
      ∀ k ∈ ids, getattr self.conn s.conn ≠ none ∧
        ∃ pool, getattr self.pool s.pool = some pool ∧ pool.id = k := by
  unfold closeOwn
  split
  next hconn =>
    refine ⟨self, [], ?_, .inl rfl, .inl rfl, by simp⟩
    rw [setattr, Assoc.modify_of_lookup hi rfl, List.append_nil]
  next client hconn =>
    split
    next hpool =>
      refine ⟨{ self with conn := some none }, [], ?_, .inr rfl, .inl rfl, by simp⟩
      rw [List.append_nil]
      rfl
    next pool hpool =>
      refine ⟨⟨some none, some none⟩, [pool.id], rfl, .inr rfl, .inr rfl, fun k hk => ?_⟩
      obtain rfl := List.mem_singleton.mp hk
      exact ⟨by simp [hconn], pool, hpool, rfl⟩

theorem closeDefault_spec (s : RedisState) :
    ∃ conn pool ids, closeDefault s = { s with
        conn := conn, pool := pool, disconnected := s.disconnected ++ ids } ∧
      (conn = s.conn ∨ conn = none) ∧ (pool = s.pool ∨ pool = none) ∧
      (1 < s.counter → conn = s.conn ∧ pool = s.pool ∧ ids = []) := by
  unfold closeDefault
  split
  next hlast =>
    rw [Bool.and_eq_true, decide_eq_true_iff] at hlast
    have hmany : ¬ 1 < s.counter := by omega
    split
    next hpool =>
      refine ⟨none, s.pool, [], ?_, .inr rfl, .inl rfl, fun h => absurd h hmany⟩
      rw [List.append_nil]
    next pool hpool =>
      exact ⟨none, none, [pool.id], rfl, .inr rfl, .inr rfl, fun h => absurd h hmany⟩
  next =>
    refine ⟨s.conn, s.pool, [], ?_, .inl rfl, .inl rfl, fun _ => ⟨rfl, rfl, rfl⟩⟩
    rw [List.append_nil]

/-- **Closing**: an instance lets go of what it has, and the class does if there is at most one
instance. -/
theorem close_spec (hi : Assoc.lookup i s.instances = some self) :
    ∃ self' conn pool ids, close i self s = { setattr i self' s with
        conn := conn, pool := pool, disconnected := s.disconnected ++ ids } ∧
      (self'.conn = self.conn ∨ self'.conn = some none) ∧
      (self'.pool = self.pool ∨ self'.pool = some none) ∧
      (conn = s.conn ∨ conn = none) ∧ (pool = s.pool ∨ pool = none) ∧
      (1 < s.counter → conn = s.conn ∧ pool = s.pool ∧
        ∀ k ∈ ids, getattr self.conn s.conn ≠ none ∧
          ∃ pool, getattr self.pool s.pool = some pool ∧ pool.id = k) := by
  obtain ⟨self', ids, hown, hselfConn, hselfPool, hids⟩ := closeOwn_spec hi
  obtain ⟨conn, pool, ids', hdefault, hconn, hpool, hmany⟩ := closeDefault_spec (closeOwn i self s)
  rw [hown] at hdefault hconn hpool hmany
  refine ⟨self', conn, pool, ids ++ ids', ?_, hselfConn, hselfPool, hconn, hpool, fun h => ?_⟩
  · rw [close, hown, hdefault, List.append_assoc]
  · obtain ⟨hconn, hpool, rfl⟩ := hmany h
    rw [List.append_nil]
    exact ⟨hconn, hpool, hids⟩

end calls

/-! ## Who has what -/

/-- The two attributes. -/
inductive Attribute where
  | conn
  | pool

/-- The number of what an instance has itself. -/
def Attribute.ofInstance : Attribute → RedisInstance → Option Nat
  | .conn, self => self.conn.join.map (·.id)
  | .pool, self => self.pool.join.map (·.id)

/-- The number of what the class has. -/
def Attribute.ofClass : Attribute → RedisState → Option Nat
  | .conn, s => s.conn.map (·.id)
  | .pool, s => s.pool.map (·.id)

/-- What the class, which is `none`, and the instances have. -/
def table (a : Attribute) (s : RedisState) : Holdings (Option Nat) where
  next := s.made
  held
    | none => a.ofClass s
    | some i => (Assoc.lookup i s.instances).bind a.ofInstance

theorem held_conn_none {s : RedisState} {client : RedisClient} (h : s.conn = some client) :
    (table .conn s).held none = some client.id := by
  simp [table, Attribute.ofClass, h]

theorem held_conn_some {s : RedisState} {i : Nat} {client : RedisClient}
    (h : own s i = some client) : (table .conn s).held (some i) = some client.id := by
  obtain ⟨self, hi, hjoin⟩ := Option.bind_eq_some_iff.mp h
  simp [table, Attribute.ofInstance, hi, hjoin]

section takes
variable {a : Attribute} {s t : RedisState} {i : Nat} {self : RedisInstance}

/-- One instance and the class change, and one of them takes what is new. -/
theorem takes_of_modify (taker : Option Nat) (self' : RedisInstance)
    (hi : Assoc.lookup i s.instances = some self)
    (ht : t.instances = Assoc.modify i (fun _ => self') s.instances) (hmade : s.made ≤ t.made)
    (hself : ∀ k, a.ofInstance self' = some k →
      a.ofInstance self = some k ∨ some i = taker ∧ s.made ≤ k ∧ k < t.made)
    (hclass : ∀ k, a.ofClass t = some k →
      a.ofClass s = some k ∨ none = taker ∧ s.made ≤ k ∧ k < t.made) :
    (table a s).Takes taker (table a t) := by
  refine ⟨hmade, fun {h k} hheld => ?_⟩
  cases h with
  | none => exact hclass k hheld
  | some j =>
    have hheld : (Assoc.lookup j t.instances).bind a.ofInstance = some k := hheld
    rw [ht, Assoc.lookup_modify] at hheld
    by_cases hji : j = i
    · subst hji
      rw [if_pos rfl, hi] at hheld
      rcases hself k hheld with hold | hnew
      · refine .inl ?_
        show (Assoc.lookup j s.instances).bind a.ofInstance = some k
        rw [hi]
        exact hold
      · exact .inr hnew
    · rw [if_neg hji] at hheld
      exact .inl hheld

theorem takes_pyNew (a : Attribute) (s : RedisState) :
    (table a s).Takes none (table a (pyNew s)) := by
  refine .of_held none (Nat.le_succ _) fun {h k} hheld => ?_
  cases h with
  | none => cases a <;> exact hheld
  | some j =>
    have hheld : (Assoc.lookup j (s.instances ++ [(s.made, ⟨none, none⟩)])).bind a.ofInstance =
        some k := hheld
    -- the new instance has nothing
    rw [Assoc.lookup_append] at hheld
    show (Assoc.lookup j s.instances).bind a.ofInstance = some k
    cases hj : Assoc.lookup j s.instances with
    | some self =>
      rw [hj] at hheld
      exact hheld
    | none =>
      rw [hj, Option.none_or, Assoc.lookup_cons] at hheld
      split at hheld
      · cases a <;> cases hheld
      · cases hheld

theorem takes_connectDefault (hi : Assoc.lookup i s.instances = some self) (a : Attribute)
    (engine : Option (String → Option String)) :
    (table a s).Takes none (table a (connectDefault i self engine s).2) := by
  rw [connectDefault]
  cases defaultSettings engine with
  | error e => exact .of_held none (Nat.le_refl _) id
  | ok settings =>
    obtain ⟨hclient, hpool⟩ := newClient_id s.made settings
    refine takes_of_modify none { self with conn := some none } hi rfl (Nat.le_add_right _ 2)
      (fun k hk => ?_) fun k hk => ?_
    · cases a with
      | conn => cases hk
      | pool => exact .inl hk
    · cases a with
      | conn =>
        obtain rfl : (newClient s.made settings).2.id = k := Option.some.inj hk
        exact .inr ⟨rfl, by simp [hclient]⟩
      | pool =>
        cases hnew : (newClient s.made settings).1 with
        | none =>
          refine .inl ?_
          simpa [Attribute.ofClass, hnew] using hk
        | some pool =>
          have hk : pool.id = k := by simpa [Attribute.ofClass, hnew] using hk
          exact .inr ⟨rfl, by simp [← hk, hpool pool hnew]⟩

theorem takes_connectWithParameters (hi : Assoc.lookup i s.instances = some self) (a : Attribute)
    (settings : RedisSettings) :
    (table a s).Takes (some i) (table a (connectWithParameters i self settings s).2) := by
  obtain ⟨hclient, hpool⟩ := newClient_id s.made settings
  refine takes_of_modify (some i) ⟨some (some (newClient s.made settings).2),
    ((newClient s.made settings).1.map some).or self.pool⟩ hi rfl (Nat.le_add_right _ 2)
    (fun k hk => ?_) fun k hk => ?_
  · cases a with
    | conn =>
      obtain rfl : (newClient s.made settings).2.id = k := Option.some.inj hk
      exact .inr ⟨rfl, by simp [connectWithParameters, hclient]⟩
    | pool =>
      cases hnew : (newClient s.made settings).1 with
      | none =>
        refine .inl ?_
        simpa [Attribute.ofInstance, hnew] using hk
      | some pool =>
        have hk : pool.id = k := by simpa [Attribute.ofInstance, hnew] using hk
        exact .inr ⟨rfl, by simp [connectWithParameters, ← hk, hpool pool hnew]⟩
  · cases a <;> exact .inl hk

theorem takes_connect (hi : Assoc.lookup i s.instances = some self) (a : Attribute)
    (engine : Option (String → Option String)) (host : Option String) (database : Int)
    (unixSocket : Bool) (password : Option String) :
    ∃ taker, (table a s).Takes taker
      (table a (connect i self engine host database unixSocket password s).2) := by
  unfold connect
  have hsame : (table a s).Takes none (table a s) := .of_held none (Nat.le_refl _) id
  cases getattr self.conn s.conn with
  | some client => exact ⟨none, hsame⟩
  | none =>
    cases s.conn with
    | some client => exact ⟨none, hsame⟩
    | none =>
      cases host with
      | none => exact ⟨none, takes_connectDefault hi a engine⟩
      | some host => exact ⟨some i, takes_connectWithParameters hi a _⟩

theorem takes_close (hi : Assoc.lookup i s.instances = some self) (a : Attribute) :
    (table a s).Takes none (table a (close i self s)) := by
  obtain ⟨self', conn, pool, ids, hclose, hselfConn, hselfPool, hconn, hpool, -⟩ := close_spec hi
  rw [hclose]
  refine takes_of_modify none self' hi rfl (Nat.le_refl _) (fun k hk => .inl ?_) fun k hk =>
    .inl ?_
  · cases a with
    | conn =>
      rcases hselfConn with heq | heq
      · simpa [Attribute.ofInstance, heq] using hk
      · simp [Attribute.ofInstance, heq] at hk
    | pool =>
      rcases hselfPool with heq | heq
      · simpa [Attribute.ofInstance, heq] using hk
      · simp [Attribute.ofInstance, heq] at hk
  · cases a with
    | conn =>
      rcases hconn with rfl | rfl
      · exact hk
      · cases hk
    | pool =>
      rcases hpool with rfl | rfl
      · exact hk
      · cases hk

theorem takes_del (hi : Assoc.lookup i s.instances = some self) (a : Attribute) :
    (table a s).Takes none (table a (del i self s)) := by
  have hclose := takes_close hi a
  refine ⟨hclose.next, fun {h k} hheld => hclose.held ?_⟩
  cases h with
  | none => cases a <;> exact hheld
  | some j =>
    have hheld : (Assoc.lookup j (Assoc.erase i (close i self s).instances)).bind a.ofInstance =
        some k := hheld
    rw [Assoc.lookup_erase] at hheld
    split at hheld
    · cases hheld
    · exact hheld

/-- **In every step** one holder takes what is new, and the others keep or let go what they
have. -/
theorem takes_step (a : Attribute) (s : RedisState) (call : RedisCall) :
    ∃ taker, (table a s).Takes taker (table a (step s call).2) := by
  have hsame : (table a s).Takes none (table a s) := .of_held none (Nat.le_refl _) id
  cases call with
  | create => exact ⟨none, takes_pyNew a s⟩
  | connect i engine host database unixSocket password =>
    rw [step]
    cases hi : Assoc.lookup i s.instances with
    | none => exact ⟨none, hsame⟩
    | some self => exact takes_connect hi a engine host database unixSocket password
  | close i =>
    rw [step]
    cases hi : Assoc.lookup i s.instances with
    | none => exact ⟨none, hsame⟩
    | some self => exact ⟨none, takes_close hi a⟩
  | destroy i =>
    rw [step]
    cases hi : Assoc.lookup i s.instances with
    | none => exact ⟨none, hsame⟩
    | some self => exact ⟨none, takes_del hi a⟩

end takes

/-- Every client and pool has one holder, and the instances are distinct. -/
structure Numbered (s : RedisState) : Prop where
  unique : ∀ a, (table a s).Unique
  distinct : (s.instances.map Prod.fst).Nodup
  below : ∀ i ∈ s.instances.map Prod.fst, i < s.made

theorem numbered_initial : Numbered initial := by
  refine ⟨fun a => ⟨fun {h k} hheld => ?_, fun {h h' k} hheld => ?_⟩, List.nodup_nil, by
    simp [initial]⟩
  all_goals cases h <;> cases a <;> cases hheld

section keys
variable {i : Nat} {self : RedisInstance} {s : RedisState}

theorem close_keeps (hi : Assoc.lookup i s.instances = some self) :
    (close i self s).instances.map Prod.fst = s.instances.map Prod.fst ∧
      (close i self s).counter = s.counter := by
  obtain ⟨self', conn, pool, ids, hclose, -⟩ := close_spec hi
  rw [hclose]
  exact ⟨Assoc.keys_modify _ _ _, rfl⟩

theorem connect_keeps (i : Nat) (self : RedisInstance) (engine : Option (String → Option String))
    (host : Option String) (database : Int) (unixSocket : Bool) (password : Option String)
    (s : RedisState) :
    let t := (connect i self engine host database unixSocket password s).2
    t.instances.map Prod.fst = s.instances.map Prod.fst ∧ t.counter = s.counter := by
  unfold connect
  split
  · exact ⟨rfl, rfl⟩
  · split
    · exact ⟨rfl, rfl⟩
    · cases host with
      | some host => exact ⟨Assoc.keys_modify _ _ _, rfl⟩
      | none =>
        simp only [connectDefault]
        cases defaultSettings engine with
        | error e => exact ⟨rfl, rfl⟩
        | ok settings => exact ⟨Assoc.keys_modify _ _ _, rfl⟩

end keys

theorem Numbered.step {s : RedisState} (h : Numbered s) (call : RedisCall) :
    Numbered (step s call).2 := by
  have hunique : ∀ a, (table a (Redis.step s call).2).Unique := by
    intro a
    obtain ⟨taker, htakes⟩ := takes_step a s call
    exact htakes.unique (h.unique a)
  have hmade : s.made ≤ (Redis.step s call).2.made := by
    obtain ⟨taker, htakes⟩ := takes_step .conn s call
    exact htakes.next
  have hsub : ((Redis.step s call).2.instances.map Prod.fst).Sublist (s.instances.map Prod.fst) →
      Numbered (Redis.step s call).2 := fun hkeys =>
    ⟨hunique, h.distinct.sublist hkeys, fun i hi =>
      Nat.lt_of_lt_of_le (h.below i (hkeys.subset hi)) hmade⟩
  cases call with
  | create =>
    have hkeys : (pyNew s).instances.map Prod.fst = s.instances.map Prod.fst ++ [s.made] := by
      simp [pyNew]
    refine ⟨hunique, ?_, fun i hi => ?_⟩
    · show ((pyNew s).instances.map Prod.fst).Nodup
      rw [hkeys, List.nodup_append]
      refine ⟨h.distinct, List.nodup_singleton _, fun i hi j hj heq => ?_⟩
      rw [List.mem_singleton.mp hj] at heq
      exact absurd (h.below i hi) (Nat.not_lt.mpr (Nat.le_of_eq heq.symm))
    · have hi : i ∈ (pyNew s).instances.map Prod.fst := hi
      rw [hkeys, List.mem_append, List.mem_singleton] at hi
      show i < s.made + 1
      rcases hi with hi | rfl
      · exact Nat.lt_succ_of_lt (h.below i hi)
      · exact Nat.lt_succ_self _
  | connect i engine host database unixSocket password =>
    refine hsub ?_
    rw [Redis.step]
    cases hi : Assoc.lookup i s.instances with
    | none => exact List.Sublist.refl _
    | some self =>
      have hkeys := (connect_keeps i self engine host database unixSocket password s).1
      exact hkeys ▸ .refl _
  | close i =>
    refine hsub ?_
    rw [Redis.step]
    cases hi : Assoc.lookup i s.instances with
    | none => exact List.Sublist.refl _
    | some self => exact (close_keeps hi).1 ▸ .refl _
  | destroy i =>
    refine hsub ?_
    rw [Redis.step]
    cases hi : Assoc.lookup i s.instances with
    | none => exact List.Sublist.refl _
    | some self =>
      rw [← (close_keeps hi).1]
      exact List.filter_sublist.map _

/-- The states after some calls are numbered on from the one before. -/
theorem grows_steps (a : Attribute) (s : RedisState) (calls : List RedisCall) :
    ∀ st ∈ Run.steps step s calls, (table a s).Grows (table a st.after) ∧
      (table a st.after).Grows (table a (Run.final step s calls)) := by
  refine Run.rel_steps (fun s t => (table a s).Grows (table a t)) (fun s => .refl _)
    (fun hst htu => hst.trans htu) (fun s call => ?_) s calls
  obtain ⟨taker, htakes⟩ := takes_step a s call
  exact htakes.grows

/-! ## The connection of one instance -/

theorem own_connectWithParameters {i : Nat} {self : RedisInstance} {s : RedisState}
    (hi : Assoc.lookup i s.instances = some self) (settings : RedisSettings) :
    own (connectWithParameters i self settings s).2 i = some (newClient s.made settings).2 := by
  simp [own, connectWithParameters, setattr, Assoc.lookup_modify, hi]

/-- What is returned is a connection of the class or of the instance that was asked. -/
theorem returned {s : RedisState} {call : RedisCall} {client : RedisClient}
    (h : (step s call).1 = .ok (some client)) :
    ∃ holder, (table .conn (step s call).2).held holder = some client.id ∧
      (holder = none ∨ holder = call.target) := by
  cases call with
  | create => cases h
  | close i => rw [step] at h; split at h <;> cases h
  | destroy i => rw [step] at h; split at h <;> cases h
  | connect i engine host database unixSocket password =>
    rw [step] at h ⊢
    cases hi : Assoc.lookup i s.instances with
    | none =>
      rw [hi] at h
      cases h
    | some self =>
      rw [hi] at h
      simp only [connect] at h ⊢
      cases hfound : getattr self.conn s.conn with
      | some found =>
        rw [hfound] at h
        obtain rfl : found = client := Option.some.inj (Except.ok.inj h)
        cases hself : self.conn with
        | none =>
          rw [hself] at hfound
          exact ⟨none, held_conn_none hfound, .inl rfl⟩
        | some attr =>
          have hown : own s i = some found := by
            rw [hself] at hfound
            obtain rfl : attr = some found := hfound
            simp [own, hi, hself]
          exact ⟨some i, held_conn_some hown, .inr rfl⟩
      | none =>
        rw [hfound] at h
        cases hclass : s.conn with
        | some found =>
          simp only [hclass] at h
          obtain rfl : found = client := Option.some.inj (Except.ok.inj h)
          exact ⟨none, held_conn_none hclass, .inl rfl⟩
        | none =>
          simp only [hclass] at h
          cases host with
          | some host =>
            rw [← Option.some.inj (Except.ok.inj h)]
            exact ⟨some i, held_conn_some (own_connectWithParameters hi _), .inr rfl⟩
          | none =>
            simp only [connectDefault] at h ⊢
            cases hsettings : defaultSettings engine with
            | error e =>
              rw [hsettings] at h
              cases h
            | ok settings =>
              rw [hsettings] at h
              obtain rfl := Option.some.inj (Except.ok.inj h)
              exact ⟨none, held_conn_none rfl, .inl rfl⟩

/-- In a run the numbers are good, and what is returned has a holder. -/
theorem numbered_steps {s : RedisState} (hs : Numbered s) (calls : List RedisCall) :
    ∀ st ∈ Run.steps step s calls, Numbered st.after ∧
      ∀ client, st.result = .ok (some client) →
        ∃ holder, (table .conn st.after).held holder = some client.id ∧
          (holder = none ∨ holder = st.call.target) :=
  Run.forall_steps Numbered (fun _ call h => h.step call)
    (fun _ call h => ⟨h.step call, fun _ => returned⟩) hs calls

theorem numbered_final (calls : List RedisCall) : Numbered (Run.final step initial calls) :=
  Run.invariant Numbered (fun _ call h => h.step call) numbered_initial calls

/-- **A new connection of an instance is private to it**, in the whole run. -/
theorem private_of_new {calls : List RedisCall} {call : RedisCall} {i : Nat} {client : RedisClient}
    (hnew : (Run.final step initial calls).made ≤ client.id)
    (hown : own (step (Run.final step initial calls) call).2 i = some client)
    (later : List RedisCall) : PrivateTo i client (calls ++ call :: later) := by
  have hnumbered := (numbered_final calls).step call
  -- from the call on, nobody but the instance has the connection
  have hlate : ∀ {u : RedisState} {holder : Option Nat},
      (table .conn (step (Run.final step initial calls) call).2).Grows (table .conn u) →
        (table .conn u).held holder = some client.id → holder = some i := fun hgrows hheld =>
    (hnumbered.unique .conn).holder_eq hgrows (held_conn_some hown) hheld
  have hprivate : ∀ {st : Run.Step RedisState RedisCall (PyResult (Option RedisClient))},
      (table .conn (step (Run.final step initial calls) call).2).Grows (table .conn st.after) →
        (st.result = .ok (some client) →
          ∃ holder, (table .conn st.after).held holder = some client.id ∧
            (holder = none ∨ holder = st.call.target)) →
        (st.result = .ok (some client) → st.call.target = some i) ∧
          st.after.conn ≠ some client := by
    intro st hgrows hreturned
    refine ⟨fun hresult => ?_, fun hconn => ?_⟩
    · obtain ⟨holder, hheld, hholder⟩ := hreturned hresult
      obtain rfl := hlate hgrows hheld
      rcases hholder with hholder | hholder
      · cases hholder
      · exact hholder.symm
    · cases hlate hgrows (held_conn_none hconn)
  intro st hst
  rw [Run.steps_append, Run.steps_cons, List.mem_append, List.mem_cons] at hst
  rcases hst with hst | rfl | hst
  · -- before the call, there is no such connection
    obtain ⟨hafter, hreturned⟩ := numbered_steps numbered_initial calls st hst
    have hmade := (grows_steps .conn initial calls st hst).2.next
    have hnone : ∀ {holder}, (table .conn st.after).held holder ≠ some client.id := by
      intro holder hheld
      have hbound := (hafter.unique .conn).bounded hheld
      exact absurd (Nat.lt_of_lt_of_le hbound hmade) (Nat.not_lt.mpr hnew)
    refine ⟨fun hresult => ?_, fun hconn => hnone (held_conn_none hconn)⟩
    obtain ⟨holder, hheld, -⟩ := hreturned client hresult
    exact absurd hheld hnone
  · exact hprivate (.refl _) returned
  · obtain ⟨-, hreturned⟩ := numbered_steps hnumbered later st hst
    exact hprivate (grows_steps .conn _ later st hst).1 (hreturned client)

/-! ## The sharing of connections -/

theorem wrapI32_of_lt {i : Int} (hlow : -2 ^ 31 ≤ i) (hhigh : i < 2 ^ 31) : wrapI32 i = i :=
  Int.bmod_eq_of_le (by omega) (by omega)

theorem Live.mem {s : RedisState} {i : Nat} (h : Live s i) : i ∈ s.instances.map Prod.fst := by
  by_contra hmem
  rw [Live, Assoc.lookup_eq_none_iff.mpr hmem] at h
  cases h

/-- The counter counts the instances, as long as there are not too many of them. -/
theorem counter_step {s : RedisState} (hs : Numbered s) (hcounter : s.counter = s.instances.length)
    (call : RedisCall) (hfew : (step s call).2.instances.length < 2 ^ 31) :
    (step s call).2.counter = (step s call).2.instances.length := by
  have hsame : ∀ {t : RedisState}, t.instances.map Prod.fst = s.instances.map Prod.fst →
      t.counter = s.counter → t.counter = t.instances.length := by
    intro t hkeys htcounter
    have hlength := congrArg List.length hkeys
    rw [List.length_map, List.length_map] at hlength
    rw [htcounter, hcounter, hlength]
  cases call with
  | create =>
    have hlength : (pyNew s).instances.length = s.instances.length + 1 := by simp [pyNew]
    have hfew : (pyNew s).instances.length < 2 ^ 31 := hfew
    show wrapI32 (s.counter + 1) = (pyNew s).instances.length
    rw [hlength, hcounter, wrapI32_of_lt (by omega) (by omega)]
    rfl
  | connect i engine host database unixSocket password =>
    rw [step]
    cases hi : Assoc.lookup i s.instances with
    | none => exact hcounter
    | some self =>
      obtain ⟨hkeys, htcounter⟩ := connect_keeps i self engine host database unixSocket password s
      exact hsame hkeys htcounter
  | close i =>
    rw [step]
    cases hi : Assoc.lookup i s.instances with
    | none => exact hcounter
    | some self => exact hsame (close_keeps hi).1 (close_keeps hi).2
  | destroy i =>
    rw [step] at hfew ⊢
    cases hi : Assoc.lookup i s.instances with
    | none => exact hcounter
    | some self =>
      simp only [hi] at hfew
      obtain ⟨hkeys, htcounter⟩ := close_keeps hi
      have hmem : i ∈ (close i self s).instances.map Prod.fst := by
        rw [hkeys]
        exact Live.mem (by simp [Live, hi])
      have hclosed := hsame hkeys htcounter
      have hlength := Assoc.length_erase (hkeys ▸ hs.distinct) hmem
      have hfew : (Assoc.erase i (close i self s).instances).length < 2 ^ 31 := hfew
      show max 0 (wrapI32 ((close i self s).counter - 1)) =
        (Assoc.erase i (close i self s).instances).length
      rw [hclosed, wrapI32_of_lt (by omega) (by omega)]
      omega

/-- There are never too many instances for the counter. -/
def FewInstances (calls : List RedisCall) : Prop :=
  ∀ st ∈ Run.steps step initial calls, st.after.instances.length < 2 ^ 31

theorem counter_final {calls : List RedisCall} (hfew : FewInstances calls) :
    (Run.final step initial calls).counter =
      (Run.final step initial calls).instances.length := by
  have hinvariant := Run.invariant_of_good
    (fun s : RedisState => Numbered s ∧ s.counter = s.instances.length)
    (fun s call h hgood => ⟨h.1.step call, counter_step h.1 h.2 call hgood⟩)
    ⟨numbered_initial, rfl⟩ calls hfew
  exact hinvariant.2

section sharing
variable {s : RedisState} {i : Nat} {self : RedisInstance}

theorem join_conn_of_own (hi : Assoc.lookup i s.instances = some self) :
    own s i = self.conn.join := by
  rw [own, hi]
  rfl

theorem connect_own (engine : Option (String → Option String)) (database : Int)
    (unixSocket : Bool) (password : Option String) {client : RedisClient}
    (hown : own s i = some client) :
    step s (.connect i engine none database unixSocket password) = (.ok (some client), s) := by
  obtain ⟨self, hi, hjoin⟩ := Option.bind_eq_some_iff.mp hown
  have hconn : self.conn = some (some client) := Option.join_eq_some_iff.mp hjoin
  simp [step, hi, connect, getattr, hconn]

/-- An instance without a connection of its own gets the one of the class. -/
theorem connect_shared (engine : Option (String → Option String)) (database : Int)
    (unixSocket : Bool) (password : Option String) {client : RedisClient} (hlive : Live s i)
    (hown : own s i = none) (hconn : s.conn = some client) :
    step s (.connect i engine none database unixSocket password) = (.ok (some client), s) := by
  obtain ⟨self, hi⟩ := Option.isSome_iff_exists.mp hlive
  rw [join_conn_of_own hi] at hown
  have hfound := getattr_of_join hown s.conn
  rw [hconn] at hfound
  rw [step, hi]
  rcases hfound with hfound | hfound
  · simp [connect, hconn, hfound]
  · simp [connect, hconn, hfound]

/-- Where there is no connection to be found, one is made. -/
theorem connect_new (engine : Option (String → Option String)) (host : Option String)
    (database : Int) (unixSocket : Bool) (password : Option String)
    (hi : Assoc.lookup i s.instances = some self) (hown : own s i = none) (hconn : s.conn = none) :
    step s (.connect i engine host database unixSocket password) =
      match host with
      | none => connectDefault i self engine s
      | some host => connectWithParameters i self
          ⟨host, database, unixSocket, (password.map PyScalar.str).getD .none⟩ s := by
  rw [join_conn_of_own hi] at hown
  have hfound : getattr self.conn none = none := (getattr_of_join hown none).elim id id
  rw [step, hi]
  simp only [connect, hconn, hfound]

/-- The first connection of the class leaves the instances without connections of their own
as they are. -/
theorem own_connectDefault (hi : Assoc.lookup i s.instances = some self)
    (hown : own s i = none) {engine : Option (String → Option String)} {settings : RedisSettings}
    (hsettings : defaultSettings engine = .ok settings) (j : Nat) :
    (Live (connectDefault i self engine s).2 j ↔ Live s j) ∧
      own (connectDefault i self engine s).2 j = own s j := by
  have hlookup : Assoc.lookup j (connectDefault i self engine s).2.instances =
      if j = i then some { self with conn := some none } else Assoc.lookup j s.instances := by
    simp [connectDefault, hsettings, setattr, Assoc.lookup_modify, hi]
  rw [Live, own, hlookup]
  by_cases hji : j = i
  · subst hji
    rw [hown]
    simp [Live, hi]
  · rw [if_neg hji]
    exact ⟨Iff.rfl, rfl⟩

theorem two_le_length {i j : Nat} (hi : Live s i) (hj : Live s j) (hne : j ≠ i) :
    1 < s.instances.length := by
  have hi := hi.mem
  have hj := hj.mem
  cases hl : s.instances with
  | nil => simp [hl] at hi
  | cons x rest =>
    cases rest with
    | nil =>
      rw [hl, List.map_singleton, List.mem_singleton] at hi hj
      exact absurd (hj.trans hi.symm) hne
    | cons y rest => simp

/-- A pool that the instance has itself is not the one of the class. -/
theorem Numbered.pool_ne (h : Numbered s) (hi : Assoc.lookup i s.instances = some self)
    {mine pool : RedisPool} (hmine : self.pool = some (some mine)) (hpool : s.pool = some pool) :
    mine.id ≠ pool.id := by
  intro heq
  have hself : (table .pool s).held (some i) = some mine.id := by
    simp [table, Attribute.ofInstance, hi, hmine]
  have hclass : (table .pool s).held none = some mine.id := by
    simp [table, Attribute.ofClass, hpool, heq]
  cases (h.unique .pool).single hself hclass

/-- What an instance closes while there are others. -/
theorem close_shared (h : Numbered s) (hmany : 1 < s.counter)
    (hi : Assoc.lookup i s.instances = some self) :
    (close i self s).conn = s.conn ∧ (close i self s).pool = s.pool ∧
      (¬ InheritsPool s i → ∃ ids, (close i self s).disconnected = s.disconnected ++ ids ∧
        ∀ pool, s.pool = some pool → pool.id ∉ ids) := by
  obtain ⟨self', conn, pool, ids, hclose, -, -, -, -, hspec⟩ := close_spec hi
  obtain ⟨rfl, rfl, hids⟩ := hspec hmany
  rw [hclose]
  refine ⟨rfl, rfl, fun hinherits => ⟨ids, rfl, fun pool hpool hmem => ?_⟩⟩
  obtain ⟨hfound, mine, hmine, heq⟩ := hids _ hmem
  cases hself : self.pool with
  | none => exact hinherits ⟨self, hi, hfound, hself⟩
  | some attr =>
    rw [hself] at hmine
    obtain rfl : attr = some mine := hmine
    exact h.pool_ne hi hself hpool heq

end sharing

/-- **The sharing of connections** holds after every sequence of calls: a connection of an
instance is its own, the default connection is for all the others and outlives each of them
but the last, and the counter counts the instances. -/
theorem redis_sharing (calls : List RedisCall) (hfew : FewInstances calls) :
    Sharing calls (Run.final step initial calls) := by
  have hnumbered := numbered_final calls
  have hcounter := counter_final hfew
  refine ⟨?_, fun i engine database unixSocket password client => connect_own _ _ _ _,
    fun i engine database unixSocket password client => connect_shared _ _ _ _, ?_, ?_, hcounter⟩
  · -- an instance gets a connection of its own, with a number that nobody has had
    intro i engine host database unixSocket password hlive hown hconn call
    obtain ⟨self, hi⟩ := Option.isSome_iff_exists.mp hlive
    have hstep := connect_new engine (some host) database unixSocket password hi hown hconn
    let settings : RedisSettings :=
      ⟨host, database, unixSocket, (password.map PyScalar.str).getD .none⟩
    refine ⟨(newClient (Run.final step initial calls).made settings).2, congrArg Prod.fst hstep,
      private_of_new ?_ ?_⟩
    · rw [(newClient_id _ _).1]
      exact Nat.le_succ _
    · rw [hstep]
      exact own_connectWithParameters hi _
  · -- the default connection is made
    intro i engine database unixSocket password settings hlive hown hconn hsettings
    obtain ⟨self, hi⟩ := Option.isSome_iff_exists.mp hlive
    have hinstances := own_connectDefault hi hown hsettings
    have hstep := connect_new engine none database unixSocket password hi hown hconn
    simp only [hstep]
    refine ⟨?_, ?_, hinstances⟩ <;> simp only [connectDefault, hsettings]
  · intro i j call hcall hj hne t
    by_cases hlive : Live (Run.final step initial calls) i
    · -- with two instances, the counter is above the one that `close` asks for
      obtain ⟨self, hi⟩ := Option.isSome_iff_exists.mp hlive
      have hmany : 1 < (Run.final step initial calls).counter := by
        have hlength := two_le_length hlive hj hne
        rw [hcounter]
        omega
      have hclose := close_shared hnumbered hmany hi
      rcases hcall with rfl | rfl
      · have ht : t = close i self (Run.final step initial calls) := by simp [t, step, hi]
        rwa [ht]
      · have ht : t = del i self (Run.final step initial calls) := by simp [t, step, hi]
        rwa [ht]
    · -- nothing is called on an instance that is gone
      have hi : Assoc.lookup i (Run.final step initial calls).instances = none := by
        simpa [Live] using hlive
      have ht : t = Run.final step initial calls := by
        rcases hcall with rfl | rfl <;> simp [t, step, hi]
      rw [ht]
      exact ⟨rfl, rfl, fun _ => ⟨[], by simp, by simp⟩⟩

theorem FewInstances.of_append {calls later : List RedisCall} (h : FewInstances (calls ++ later)) :
    FewInstances calls := by
  intro st hst
  refine h st ?_
  rw [Run.steps_append]
  exact List.mem_append_left _ hst

/-- The cvars of a server with a database of its own. -/
def localCvars (name : String) : Option String :=
  if name = "qlx_redisAddress" then some "localhost"
  else if name = "qlx_redisDatabase" then some "0"
  else if name = "qlx_redisUnixSocket" then some "0"
  else if name = "qlx_redisPassword" then some ""
  else none

/-- An instance connects to a host and another one to the default database, the first one closes
its connection, and asks for the default one. -/
def twoInstances : List RedisCall :=
  [.create, .create, .connect 0 (some localCvars) (some "other-host:6380") 0 false none,
    .connect 1 (some localCvars) none 0 false none, .close 0,
    .connect 0 (some localCvars) none 0 false none]

/-- What the two are given. -/
def otherClient : RedisClient := (newClient 2 ⟨"other-host:6380", 0, false, .none⟩).2

def localClient : RedisClient := (newClient 4 ⟨"localhost", 0, false, .str ""⟩).2

/-- The first connection is private, the second one outlives the close of the first, which is the
only one to be disconnected, and is the one that both have at last. -/
theorem redis_sharing_two :
    Sharing twoInstances (Run.final step initial twoInstances) ∧
      (Run.steps step initial twoInstances).map (·.result) =
        [.ok none, .ok none, .ok (some otherClient), .ok (some localClient), .ok none,
          .ok (some localClient)] ∧
      PrivateTo 0 otherClient twoInstances ∧
      (Run.final step initial twoInstances).conn = some localClient ∧
      (Run.final step initial twoInstances).disconnected = otherClient.pool.toList.map (·.id) := by
  have hfew : FewInstances twoInstances := by
    intro st hst
    simp only [twoInstances, Run.steps_cons, Run.steps_nil, List.mem_cons, List.not_mem_nil,
      or_false] at hst
    rcases hst with rfl | rfl | rfl | rfl | rfl | rfl <;> decide
  have hcreated : FewInstances ([.create, .create] ++ twoInstances.drop 2) := hfew
  obtain ⟨client, hclient, hprivate⟩ := (redis_sharing _ hcreated.of_append).connectHost 0
    (some localCvars) "other-host:6380" 0 false none rfl rfl rfl
  obtain rfl : otherClient = client := Option.some.inj (Except.ok.inj hclient)
  exact ⟨redis_sharing _ hfew, rfl, hprivate _, rfl, rfl⟩

/-- `connect` without a host returns the connection of the class. -/
def ReturnsDefault (s : RedisState) : Prop :=
  ∀ i engine database unixSocket password client,
    (step s (.connect i engine none database unixSocket password)).1 = .ok (some client) →
      (step s (.connect i engine none database unixSocket password)).2.conn = some client

/-- An instance that has connected to a host. -/
def connected : RedisState :=
  Run.final step initial [.create, .connect 0 none (some "localhost:6379") 0 false none]

theorem counter_creates {n : Nat} (hn : n < 2 ^ 31) :
    (Run.final step initial (List.replicate n .create)).counter = n ∧
      (Run.final step initial (List.replicate n .create)).instances.length = n := by
  induction n with
  | zero => exact ⟨rfl, rfl⟩
  | succ n ih =>
    obtain ⟨hcounter, hlength⟩ := ih (by omega)
    rw [List.replicate_succ', Run.final_append]
    refine ⟨?_, ?_⟩
    · show wrapI32 ((Run.final step initial (List.replicate n .create)).counter + 1) = _
      rw [hcounter, wrapI32_of_lt (by omega) (by omega)]
      rfl
    · show ((Run.final step initial (List.replicate n .create)).instances ++ [_]).length = _
      rw [List.length_append, hlength]
      rfl

/-- The counter does not count the instance after the last one that fits into it. -/
theorem counter_overflow {n : Nat} (hn : n + 1 = 2 ^ 31) :
    (Run.final step initial (List.replicate n .create ++ [.create])).counter ≠
      (Run.final step initial (List.replicate n .create ++ [.create])).instances.length := by
  obtain ⟨-, hlength⟩ := counter_creates (n := n) (by omega)
  have hlast : (Run.final step initial (List.replicate n .create ++ [.create])).instances.length =
      n + 1 := by
    rw [Run.final_append]
    show ((Run.final step initial (List.replicate n .create)).instances ++ [_]).length = n + 1
    rw [List.length_append, hlength]
    rfl
  have hlt : (Run.final step initial (List.replicate n .create ++ [.create])).counter < 2 ^ 31 := by
    rw [Run.final_append]
    exact Int.bmod_lt (by decide)
  omega

/-- An instance gets its own connection where it asks for the default one, and the counter is
wrong from 2147483648 instances on. -/
theorem not_returnsDefault_connected :
    ¬ ReturnsDefault connected ∧ ∃ calls, (Run.final step initial calls).counter ≠
      (Run.final step initial calls).instances.length := by
  refine ⟨fun h => ?_, List.replicate (2 ^ 31 - 1) .create ++ [.create],
    counter_overflow (by omega)⟩
  · have hclient : own connected 0 = some (newClient 1 ⟨"localhost:6379", 0, false, .none⟩).2 := rfl
    have hstep := connect_own none 0 false none hclient
    have hconn := h 0 none 0 false none _ (congrArg Prod.fst hstep)
    rw [hstep] at hconn
    cases hconn

end Redis
end ShinQlx
