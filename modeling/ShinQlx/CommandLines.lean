import ShinQlx.ClientCommand

/-! # The lines of a client command

The expressions that a client command is tried against match at any line of it.
`classify_line` says which line decides when another follows the first one: the one whose
expression is tried first.  It leaves open what `RE_CALLVOTE` finds, which can match across
lines.
-/
namespace ShinQlx

/-- The place of a request among the expressions. -/
def ClientRequest.rank : ClientRequest → Nat
  | .say _ => 0
  | .sayTeam _ => 1
  | .callvote _ _ => 2
  | .vote _ => 3
  | .team _ => 4
  | .userinfo _ => 5
  | .other => 6

namespace ClientCommand
open Regex

/-- A search of a line at a time, for what is read off every match. -/
theorem bind_captures_line {α : Type} {r : Regex} {f : Match → Option α} (hr : r.Line = true)
    (hextend : ∀ m more, f (m.extend more) = f m)
    (hsome : ∀ prev cs, ∀ m ∈ run r prev cs, (f m).isSome) {s : String} (hs : '\n' ∉ s.toList)
    (t : String) :
    (captures r (s ++ "\n" ++ t)).bind f = ((captures r s).bind f).or ((captures r t).bind f) := by
  rw [captures_line hr hs]
  cases h : captures r s with
  | none => rfl
  | some m =>
    obtain ⟨prev, cs, hm⟩ := mem_run_of_find h
    obtain ⟨a, ha⟩ := Option.isSome_iff_exists.mp (hsome prev cs m hm)
    simp [hextend, ha]

/-- The request that each expression reads off a command. -/
def attempts (cmd : String) : List (Option ClientRequest) :=
  [((captures reSay cmd).bind reformattedMsg).map .say,
    ((captures reSayTeam cmd).bind reformattedMsg).map .sayTeam,
    ((captures reCallvote cmd).bind votedFor).map fun x => .callvote x.1 x.2,
    ((captures reVote cmd).bind (·.name "arg")).map .vote,
    ((captures reTeam cmd).bind (·.name "arg")).map .team,
    ((captures reUserinfo cmd).bind (·.name "vars")).map .userinfo]

/-- The first request that was read, or `other`. -/
def firstOf : List (Option ClientRequest) → ClientRequest
  | [] => .other
  | some r :: _ => r
  | none :: rest => firstOf rest

theorem classify_eq (cmd : String) : classify cmd = firstOf (attempts cmd) := by
  unfold classify attempts
  cases (captures reSay cmd).bind reformattedMsg with
  | some msg => rfl
  | none =>
    cases (captures reSayTeam cmd).bind reformattedMsg with
    | some msg => rfl
    | none =>
      cases (captures reCallvote cmd).bind votedFor with
      | some x => rfl
      | none =>
        cases (captures reVote cmd).bind (·.name "arg") with
        | some arg => rfl
        | none =>
          cases (captures reTeam cmd).bind (·.name "arg") with
          | some arg => rfl
          | none => cases (captures reUserinfo cmd).bind (·.name "vars") <;> rfl

/-- The requests stand at their ranks, from `k` on. -/
def Ranked : Nat → List (Option ClientRequest) → Prop
  | k, [] => k = 6
  | k, o :: rest => (∀ r, o = some r → r.rank = k) ∧ Ranked (k + 1) rest

theorem attempts_ranked (cmd : String) : Ranked 0 (attempts cmd) := by
  refine ⟨?_, ?_, ?_, ?_, ?_, ?_, rfl⟩
  all_goals
    intro r hr
    obtain ⟨x, -, rfl⟩ := Option.map_eq_some_iff.mp hr
    rfl

theorem Ranked.le {k : Nat} {os : List (Option ClientRequest)} (h : Ranked k os) :
    k ≤ (firstOf os).rank := by
  induction os generalizing k with
  | nil =>
    obtain rfl : k = 6 := h
    exact Nat.le_refl _
  | cons o os ih =>
    cases o with
    | none => exact Nat.le_of_succ_le (ih h.2)
    | some r => exact Nat.le_of_eq (h.1 r rfl).symm

theorem Ranked.lt {k : Nat} {o : Option ClientRequest} {os : List (Option ClientRequest)}
    (h : Ranked k (o :: os)) : k < 6 := by
  have hrank : (firstOf os).rank ≤ 6 := by cases firstOf os <;> simp [ClientRequest.rank]
  exact h.2.le.trans hrank

/-- Of two commands one after the other, the one of the smaller rank is found. -/
theorem firstOf_zipWith_or {k : Nat} {os os' : List (Option ClientRequest)} (h : Ranked k os)
    (h' : Ranked k os') :
    firstOf (List.zipWith Option.or os os') =
      if (firstOf os).rank ≤ (firstOf os').rank then firstOf os else firstOf os' := by
  induction os generalizing k os' with
  | nil =>
    obtain rfl : k = 6 := h
    cases os' with
    | nil => rfl
    | cons o' os' => exact absurd h'.lt (Nat.lt_irrefl 6)
  | cons o os ih =>
    cases os' with
    | nil =>
      obtain rfl : k = 6 := h'
      exact absurd h.lt (Nat.lt_irrefl 6)
    | cons o' os' =>
      cases o with
      | some r =>
        have hr : r.rank = k := h.1 r rfl
        have hle := h'.le
        simp only [List.zipWith_cons_cons, Option.some_or, firstOf, hr, if_pos hle]
      | none =>
        cases o' with
        | none => exact ih h.2 h'.2
        | some r =>
          have hr : r.rank = k := h'.1 r rfl
          have hle := h.2.le
          have hlt : ¬ (firstOf os).rank ≤ k := by omega
          simp only [List.zipWith_cons_cons, Option.none_or, firstOf, hr, if_neg hlt]

theorem reformattedMsg_isSome {command : String} {prev : Option Char} {cs : List Char} {m : Match}
    (h : m ∈ run (reChat command) prev cs) : (reformattedMsg m).isSome = true := by
  have hmsg : (m.name "msg").isSome = true :=
    isSome_name_of_mem_run (by simp [reChat, Regex.sequence, Binds]) h
  rw [reformattedMsg, Option.isSome_map]
  exact hmsg

theorem arg_isSome {command : String} {prev : Option Char} {cs : List Char} {m : Match}
    (h : m ∈ run (reArg command) prev cs) : (m.name "arg").isSome = true :=
  isSome_name_of_mem_run (by simp [reArg, Regex.sequence, Binds]) h

/-- What is read off a command of more than one line, as far as it is read line by line. -/
theorem attempts_line {s : String} (hs : '\n' ∉ s.toList) (t : String) :
    attempts (s ++ "\n" ++ t) =
      (List.zipWith Option.or (attempts s) (attempts t)).set 2
        (((captures reCallvote (s ++ "\n" ++ t)).bind votedFor).map fun x =>
          .callvote x.1 x.2) := by
  have hsay := bind_captures_line (r := reSay) (f := reformattedMsg) (by decide)
    (fun _ _ => rfl) (fun _ _ _ => reformattedMsg_isSome) hs t
  have hsayTeam := bind_captures_line (r := reSayTeam) (f := reformattedMsg) (by decide)
    (fun _ _ => rfl) (fun _ _ _ => reformattedMsg_isSome) hs t
  have hvote := bind_captures_line (r := reVote) (f := (·.name "arg")) (by decide)
    (fun _ _ => rfl) (fun _ _ _ => arg_isSome) hs t
  have hteam := bind_captures_line (r := reTeam) (f := (·.name "arg")) (by decide)
    (fun _ _ => rfl) (fun _ _ _ => arg_isSome) hs t
  have huserinfo := bind_captures_line (r := reUserinfo) (f := (·.name "vars")) (by decide)
    (fun _ _ => rfl) (fun _ _ _ => isSome_name_of_mem_run (by decide)) hs t
  simp only [attempts, hsay, hsayTeam, hvote, hteam, huserinfo, Option.map_or]
  rfl

/-- The expressions before `RE_CALLVOTE` were not found. -/
theorem attempts_of_rank {cmd : String} (h : 2 ≤ (classify cmd).rank) :
    ∃ rest, attempts cmd = none :: none :: rest := by
  rw [classify_eq] at h
  have hranked := attempts_ranked cmd
  generalize attempts cmd = os at h hranked
  match os with
  | [] => exact absurd hranked (by simp [Ranked])
  | some r :: _ =>
    have hr := hranked.1 r rfl
    simp only [firstOf] at h
    omega
  | none :: [] => exact absurd hranked (by simp [Ranked])
  | none :: some r :: _ =>
    have hr := hranked.2.1 r rfl
    simp only [firstOf] at h
    omega
  | none :: none :: rest => exact ⟨rest, rfl⟩

/-- The vote that `RE_CALLVOTE` reads off a command. -/
def callvoteOf (cmd : String) : Option (String × String) := (captures reCallvote cmd).bind votedFor

theorem classify_of_callvoteOf {s : String} (hs : '\n' ∉ s.toList) {t : String}
    (hranks : 2 ≤ (classify s).rank) (hrankt : 2 ≤ (classify t).rank) {x : String × String}
    (hx : callvoteOf (s ++ "\n" ++ t) = some x) :
    classify (s ++ "\n" ++ t) = .callvote x.1 x.2 := by
  obtain ⟨os, hos⟩ := attempts_of_rank hranks
  obtain ⟨os', hos'⟩ := attempts_of_rank hrankt
  have hlen : 0 < os.length ∧ 0 < os'.length := by
    have h := congrArg List.length hos
    have h' := congrArg List.length hos'
    simp only [attempts, List.length_cons, List.length_nil] at h h'
    omega
  have hx : (captures reCallvote (s ++ "\n" ++ t)).bind votedFor = some x := hx
  rw [classify_eq, attempts_line hs, hos, hos', hx]
  match os, os', hlen with
  | o :: os, o' :: os', _ => rfl

/-- **A line behind another is found if its request is tried first.**  Only `RE_CALLVOTE`
can match across the lines. -/
theorem classify_line {s : String} (hs : '\n' ∉ s.toList) {t : String}
    (hcallvote : 2 ≤ (classify s).rank → 2 ≤ (classify t).rank →
      callvoteOf (s ++ "\n" ++ t) = (callvoteOf s).or (callvoteOf t)) :
    classify (s ++ "\n" ++ t) =
      if (classify s).rank ≤ (classify t).rank then classify s else classify t := by
  have hzip := firstOf_zipWith_or (attempts_ranked s) (attempts_ranked t)
  rw [← classify_eq, ← classify_eq] at hzip
  rw [← hzip, classify_eq, attempts_line hs]
  by_cases hrank : 2 ≤ (classify s).rank ∧ 2 ≤ (classify t).rank
  · -- the expressions after the second are asked
    have h := hcallvote hrank.1 hrank.2
    simp only [callvoteOf] at h
    rw [h]
    simp [attempts, List.set, Option.map_or]
  · -- one of the first two decides
    have hranked := attempts_ranked s
    have hranked' := attempts_ranked t
    rw [classify_eq, classify_eq] at hrank
    generalize hos : attempts s = os at hrank hranked
    generalize hos' : attempts t = os' at hrank hranked'
    match os, os' with
    | [], _ => exact absurd hranked (by simp [Ranked])
    | [_], _ => exact absurd hranked (by simp [Ranked])
    | _, [] => exact absurd hranked' (by simp [Ranked])
    | _, [_] => exact absurd hranked' (by simp [Ranked])
    | some r :: _ :: os, _ :: _ :: os' => rfl
    | none :: _ :: os, some r :: _ :: os' => rfl
    | none :: some r :: os, none :: _ :: os' => rfl
    | none :: none :: os, none :: some r :: os' => rfl
    | none :: none :: os, none :: none :: os' =>
      exact absurd ⟨hranked.2.2.le, hranked'.2.2.le⟩ hrank

end ClientCommand
end ShinQlx
