import ShinQlx.HandleInput

/-! # Authorisation of commands

No handler of a command runs for a player who may not use it: whatever the cvars
and the database answer, or fail to answer, every handler that `handle_input`
calls belongs to a registered command that the message names, that is allowed in
the channel and that the player has the rights to run.
-/
namespace ShinQlx
namespace CommandInvoker
variable {Pl H C P : Type} [PyCompare C]

/-- The command at a position may be run for an input. -/
structure Authorised (inp : Input Pl H C P) (commands : Commands Pl H C)
    (x : Command Pl H C × Nat) : Prop where
  registered : x ∈ (Levels.flatten commands).zipIdx
  called : ∃ word, (Text.splitWhitespace inp.msg).head? = some word ∧
    x.1.CalledBy inp.toLowercase (inp.world x.2).toLookups (inp.toLowercase word)
  allowed : x.1.AllowedIn inp.channel
  permitted : ∃ channelName, inp.channelName = .ok channelName ∧
    x.1.Permitted (inp.world x.2).toLookups inp.player (channelName = "client_command")

/-- The commands whose handlers are called are eligible. -/
theorem eligible_of_mem_executed {inp : Input Pl H C P} {name : String} {isClientCmd : Bool}
    {k : Nat} {cs : List (Command Pl H C)} {x : Command Pl H C × Nat}
    (h : x ∈ executed inp name (attempts inp name isClientCmd k cs)) :
    x ∈ cs.zipIdx k ∧ eligible inp name isClientCmd x = true := by
  have htried : x ∈ tried inp name (attempts inp name isClientCmd k cs) := List.mem_of_mem_filter h
  have hattempt : x ∈ attempts inp name isClientCmd k cs :=
    (Loop.through_prefix _ _).subset htried
  exact List.mem_filter.mp hattempt

/-- **Authorisation is sound.** -/
theorem handler_calls_authorised (inp : Input Pl H C P) (commands : Commands Pl H C) :
    ∀ x ∈ (handleInput inp commands).calls, Authorised inp commands x := by
  intro x hx
  by_cases h : ∃ name channelName, inputName inp = some name ∧
      inp.channelName = .ok channelName ∧ inp.dispatcher = true
  · obtain ⟨name, channelName, hname, hchannel, hdispatcher⟩ := h
    rw [handleInput_exact _ hname hchannel hdispatcher] at hx
    obtain ⟨hmem, heligible⟩ := eligible_of_mem_executed hx
    simp only [eligible, Bool.and_eq_true] at heligible
    obtain ⟨⟨hcalled, hallowed⟩, hpermitted⟩ := heligible
    obtain ⟨word, hword, rfl⟩ := Option.map_eq_some_iff.mp hname
    exact ⟨hmem, ⟨word, hword, (Command.isEligibleName_iff ..).mp hcalled⟩,
      (Command.isEligibleChannel_iff ..).mp hallowed, channelName, hchannel,
      (Command.isEligiblePlayer_iff ..).mp hpermitted⟩
  · rw [handleInput_calls_nil commands h] at hx
    cases hx

theorem handler_calls_authorised_kick :
    Authorised (kickInput fun _ => .bool true) (fun i => if i.val = 1 then [kick true] else [])
      (kick true, 0) :=
  handler_calls_authorised (kickInput fun _ => .bool true) _ (kick true, 0) (by decide)

end CommandInvoker
end ShinQlx
