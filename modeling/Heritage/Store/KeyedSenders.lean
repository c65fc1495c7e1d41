import Mathlib

/-!
# Senders with renewable keys

Several senders put messages on a network that may deliver them late, twice or
not at all.  Each message carries the key its sender holds.  A sender repeats
its message under the same key and takes an unused key before it sends another
message, so a key stands for one message.
-/

namespace Heritage.Store

universe u v

/-- A sender: the key it holds, and the message it would send now if it would
send one. -/
structure Sender (κ : Type u) (μ : Type v) where
  key : κ
  message : Option μ

/-- The senders of a network and what was sent, in order. -/
structure Senders (κ : Type u) (μ : Type v) where
  senders : List (Sender κ μ)
  sent : List (κ × μ)

namespace Senders

variable {κ : Type u} {μ : Type v} {state after : Senders κ μ}

/-- No sender holds the key and nothing was sent under it. -/
structure Unused (state : Senders κ μ) (key : κ) : Prop where
  held : ∀ sender ∈ state.senders, sender.key ≠ key
  sent : ∀ entry ∈ state.sent, entry.1 ≠ key

/-- What one sender may do: arrive with an unused key, take an unused key,
keep its key and at most give its message up, or send its message. -/
inductive Step (state : Senders κ μ) : Senders κ μ → Prop where
  | idle : Step state state
  | joined (sender : Sender κ μ) (unused : state.Unused sender.key) :
      Step state { state with senders := state.senders ++ [sender] }
  | renewed (index : Nat) (sender : Sender κ μ)
      (unused : state.Unused sender.key) :
      Step state { state with senders := state.senders.set index sender }
  | held (index : Nat) (old sender : Sender κ μ)
      (found : state.senders[index]? = some old)
      (sameKey : sender.key = old.key)
      (sameMessage :
        ∀ message, sender.message = some message →
          old.message = some message) :
      Step state { state with senders := state.senders.set index sender }
  | sent (sender : Sender κ μ) (message : μ)
      (member : sender ∈ state.senders)
      (sends : sender.message = some message) :
      Step state { state with sent := state.sent ++ [(sender.key, message)] }

/-- Senders hold different keys, a sender that holds the key of a sent message
would only send that message, and one key was only used for one message. -/
structure OneMessage (state : Senders κ μ) : Prop where
  distinct : (state.senders.map Sender.key).Nodup
  current :
    ∀ entry ∈ state.sent, ∀ sender ∈ state.senders, sender.key = entry.1 →
      ∀ message, sender.message = some message → message = entry.2
  sent :
    ∀ entry ∈ state.sent, ∀ other ∈ state.sent, entry.1 = other.1 →
      entry.2 = other.2

theorem oneMessage_nil :
    OneMessage (⟨[], []⟩ : Senders κ μ) where
  distinct := List.nodup_nil
  current := fun _ member => absurd member List.not_mem_nil
  sent := fun _ member => absurd member List.not_mem_nil

theorem eq_of_key (one : OneMessage state) {sender other : Sender κ μ}
    (member : sender ∈ state.senders) (otherMember : other ∈ state.senders)
    (sameKey : sender.key = other.key) : sender = other :=
  List.inj_on_of_nodup_map one.distinct member otherMember sameKey

theorem OneMessage.joined (one : OneMessage state) {sender : Sender κ μ}
    (unused : state.Unused sender.key) :
    OneMessage { state with senders := state.senders ++ [sender] } where
  distinct := by
    rw [List.map_append, List.map_singleton]
    apply List.Nodup.append one.distinct (List.nodup_singleton _)
    intro key held new
    obtain ⟨other, member, rfl⟩ := List.mem_map.mp held
    exact unused.held other member (List.mem_singleton.mp new)
  current := by
    intro entry entryMember other member sameKey
    rcases List.mem_append.mp member with old | new
    · exact one.current entry entryMember other old sameKey
    · obtain rfl := List.mem_singleton.mp new
      exact absurd sameKey.symm (unused.sent entry entryMember)
  sent := one.sent

theorem OneMessage.renewed (one : OneMessage state) (index : Nat)
    {sender : Sender κ μ} (unused : state.Unused sender.key) :
    OneMessage { state with senders := state.senders.set index sender } where
  distinct := by
    rw [List.map_set]
    apply one.distinct.set
    intro held
    obtain ⟨other, member, sameKey⟩ := List.mem_map.mp held
    exact unused.held other member sameKey
  current := by
    intro entry entryMember other member sameKey
    rcases List.mem_or_eq_of_mem_set member with old | rfl
    · exact one.current entry entryMember other old sameKey
    · exact absurd sameKey.symm (unused.sent entry entryMember)
  sent := one.sent

theorem OneMessage.held (one : OneMessage state) {index : Nat}
    {old sender : Sender κ μ} (found : state.senders[index]? = some old)
    (sameKey : sender.key = old.key)
    (sameMessage :
      ∀ message, sender.message = some message →
        old.message = some message) :
    OneMessage { state with senders := state.senders.set index sender } where
  distinct := by
    obtain ⟨inRange, rfl⟩ := List.getElem?_eq_some_iff.mp found
    have sameKeys :
        (state.senders.set index sender).map Sender.key =
          state.senders.map Sender.key := by
      rw [List.map_set, sameKey, ← List.getElem_map Sender.key,
        List.set_getElem_self]
      rwa [List.length_map]
    rw [sameKeys]
    exact one.distinct
  current := by
    intro entry entryMember other member holds message sends
    rcases List.mem_or_eq_of_mem_set member with unchanged | rfl
    · exact one.current entry entryMember other unchanged holds message sends
    · rw [sameKey] at holds
      exact
        one.current entry entryMember old (List.mem_of_getElem? found) holds
          message (sameMessage message sends)
  sent := one.sent

theorem OneMessage.sent_append (one : OneMessage state) {sender : Sender κ μ}
    {message : μ} (member : sender ∈ state.senders)
    (sends : sender.message = some message) :
    OneMessage
      { state with sent := state.sent ++ [(sender.key, message)] } where
  distinct := one.distinct
  current := by
    intro entry entryMember other otherMember sameKey otherMessage otherSends
    rcases List.mem_append.mp entryMember with old | new
    · exact
        one.current entry old other otherMember sameKey otherMessage
          otherSends
    · obtain rfl := List.mem_singleton.mp new
      obtain rfl := eq_of_key one otherMember member sameKey
      rw [sends] at otherSends
      exact (Option.some.inj otherSends).symm
  sent := by
    intro entry entryMember other otherMember sameKey
    rcases List.mem_append.mp entryMember with old | new
    · rcases List.mem_append.mp otherMember with otherOld | otherNew
      · exact one.sent entry old other otherOld sameKey
      · obtain rfl := List.mem_singleton.mp otherNew
        exact
          (one.current entry old sender member sameKey.symm message
            sends).symm
    · obtain rfl := List.mem_singleton.mp new
      rcases List.mem_append.mp otherMember with otherOld | otherNew
      · exact
          one.current other otherOld sender member sameKey message sends
      · obtain rfl := List.mem_singleton.mp otherNew
        rfl

theorem OneMessage.step (one : OneMessage state) (step : Step state after) :
    OneMessage after := by
  cases step with
  | idle => exact one
  | joined sender unused => exact one.joined unused
  | renewed index sender unused => exact one.renewed index unused
  | held index old sender found sameKey sameMessage =>
      exact one.held found sameKey sameMessage
  | sent sender message member sends => exact one.sent_append member sends

end Senders

end Heritage.Store
