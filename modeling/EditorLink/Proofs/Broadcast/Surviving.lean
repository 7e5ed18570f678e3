import EditorLink.Broadcast
import Mathlib.Data.List.Induction

/-!
# What ends a subscription

Subscribers keep the tokens that they are given, and may use them late and more than once.
However they subscribe, dispose and unsubscribe, the live subscriptions are those that were made
and neither disposed of by their own token nor ended with all others of their listener since
then. They stand in the order in which they were made.
-/
namespace EditorLink.Broadcast

/-- What may be asked of a broadcast. -/
inductive Request (α : Type) where
  | subscribe (listener : α)
  /-- The subscription of that number is disposed of; the first one has the number zero. -/
  | dispose (number : Nat)
  | unsubscribe (listener : α)
deriving DecidableEq

/-- A broadcast, and the tokens that were given out by it, in the order of the subscriptions. -/
structure Subscribers (α : Type) where
  broadcast : Broadcast α
  tokens : List Nat

/-- Whether a subscription is made. -/
def Request.subscribes {α : Type} : Request α → Bool
  | subscribe _ => true
  | _ => false

section
variable {α : Type} [DecidableEq α] {history : List (Request α)}

/-- Whether a subscription is ended. -/
def Request.ends : Request α → Subscription α → Bool
  | subscribe _, _ => false
  | dispose number, s => s.token = number
  | unsubscribe listener, s => s.listener = listener

namespace Subscribers

/-- Does what is asked for. A token that is not given out yet cannot be used. -/
def ask (s : Subscribers α) : Request α → Subscribers α
  | .subscribe listener =>
    let (broadcast, token) := s.broadcast.subscribe listener
    ⟨broadcast, s.tokens ++ [token]⟩
  | .dispose number =>
    match s.tokens[number]? with
    | none => s
    | some token => { s with broadcast := s.broadcast.cancel token }
  | .unsubscribe listener => { s with broadcast := s.broadcast.cancelAll listener }

/-- What comes of some requests to a new broadcast. -/
def after (history : List (Request α)) : Subscribers α := history.foldl ask ⟨.empty, []⟩

end Subscribers

/-- The subscriptions that some requests make and do not end; some were made before. -/
def surviving (made : Nat) : List (Request α) → List (Subscription α)
  | [] => []
  | .subscribe listener :: later =>
    if .dispose made ∈ later ∨ .unsubscribe listener ∈ later then surviving (made + 1) later
    else ⟨made, listener⟩ :: surviving (made + 1) later
  | .dispose _ :: later | .unsubscribe _ :: later => surviving made later

theorem surviving_concat_subscribe (made : Nat) (history : List (Request α)) (listener : α) :
    surviving made (history ++ [.subscribe listener]) =
      surviving made history ++ [⟨made + history.countP Request.subscribes, listener⟩] := by
  induction history generalizing made with
  | nil => simp [surviving]
  | cons r later ih =>
    cases r with
    | subscribe l =>
      have hnumber : made + 1 + later.countP Request.subscribes =
          made + (later.countP Request.subscribes + 1) := by omega
      simp only [List.cons_append, surviving, List.mem_append, List.mem_singleton, reduceCtorEq,
        or_false, ih, hnumber, List.countP_cons, Request.subscribes, if_true]
      split <;> simp
    | dispose | unsubscribe => simp [surviving, ih, Request.subscribes]

/-- What is asked for last ends what it ends of that which has come through so far. -/
theorem surviving_concat {r : Request α} (hr : r.subscribes = false) (made : Nat)
    (history : List (Request α)) :
    surviving made (history ++ [r]) = (surviving made history).filter (!r.ends ·) := by
  induction history generalizing made with
  | nil => cases r <;> simp_all [surviving, Request.subscribes]
  | cons q later ih =>
    cases q with
    | subscribe l =>
      have hends : r.ends ⟨made, l⟩ ↔ .dispose made = r ∨ .unsubscribe l = r := by
        cases r <;> simp [Request.ends]
      have hended : .dispose made ∈ later ++ [r] ∨ .unsubscribe l ∈ later ++ [r] ↔
          (.dispose made ∈ later ∨ .unsubscribe l ∈ later) ∨ r.ends ⟨made, l⟩ := by
        simp only [hends, List.mem_append, List.mem_singleton]
        tauto
      simp only [List.cons_append, surviving, hended, ih]
      by_cases hlater : .dispose made ∈ later ∨ .unsubscribe l ∈ later
      · simp [hlater]
      · cases he : r.ends ⟨made, l⟩ <;> simp [hlater, he]
    | dispose | unsubscribe => simp [surviving, ih]

theorem token_lt_of_mem_surviving {made : Nat} {s : Subscription α}
    (hs : s ∈ surviving made history) : s.token < made + history.countP Request.subscribes := by
  induction history generalizing made with
  | nil => simp [surviving] at hs
  | cons r later ih =>
    cases r with
    | subscribe l =>
      have hlater : s ∈ surviving (made + 1) later ∨ s.token = made := by
        rw [surviving] at hs
        split at hs
        · exact .inl hs
        · obtain rfl | hs := List.mem_cons.mp hs
          · exact .inr rfl
          · exact .inl hs
      have hcount : (Request.subscribe l :: later).countP Request.subscribes =
          later.countP Request.subscribes + 1 := by simp [List.countP_cons, Request.subscribes]
      obtain hs | hs := hlater
      · have hlt := ih hs
        omega
      · omega
    | dispose | unsubscribe =>
      rw [surviving] at hs
      simpa [Request.subscribes, List.countP_cons] using ih hs

/-- What subscribers have after some requests, by the requests alone. -/
structure Subscribers.Follows (history : List (Request α)) (s : Subscribers α) : Prop where
  issued : s.broadcast.issued = history.countP Request.subscribes
  tokens : s.tokens = List.range (history.countP Request.subscribes)
  live : s.broadcast.live = surviving 0 history

theorem Subscribers.Follows.keep {s t : Subscribers α} {r : Request α} (h : s.Follows history)
    (hr : r.subscribes = false) (issued : t.broadcast.issued = s.broadcast.issued)
    (tokens : t.tokens = s.tokens) (live : t.broadcast.live = surviving 0 (history ++ [r])) :
    t.Follows (history ++ [r]) := by
  have hcount : (history ++ [r]).countP Request.subscribes =
      history.countP Request.subscribes := by simp [hr]
  exact ⟨by rw [issued, h.issued, hcount], by rw [tokens, h.tokens, hcount], live⟩

/-- What one request comes to. -/
theorem Subscribers.Follows.ask {s : Subscribers α} (h : s.Follows history) (r : Request α) :
    (s.ask r).Follows (history ++ [r]) := by
  cases r with
  | subscribe listener =>
    refine ⟨?_, ?_, ?_⟩
    · simp [Subscribers.ask, Broadcast.subscribe, Request.subscribes, h.issued]
    · simp [Subscribers.ask, Broadcast.subscribe, Request.subscribes, h.issued, h.tokens,
        List.range_succ]
    · simp [Subscribers.ask, Broadcast.subscribe, surviving_concat_subscribe, h.issued, h.live]
  | dispose number =>
    by_cases hmade : number < history.countP Request.subscribes
    · have hask : s.ask (.dispose number) = { s with broadcast := s.broadcast.cancel number } := by
        simp [Subscribers.ask, h.tokens, hmade]
      rw [hask]
      refine h.keep rfl rfl rfl ?_
      rw [surviving_concat rfl, ← h.live]
      simp [Broadcast.cancel, Request.ends]
    · have hask : s.ask (.dispose number) = s := by simp [Subscribers.ask, h.tokens, hmade]
      rw [hask]
      refine h.keep rfl rfl rfl ?_
      -- Nobody was given a token for a subscription that is not made yet.
      rw [surviving_concat rfl, h.live, eq_comm, List.filter_eq_self]
      intro t ht
      have hlt := token_lt_of_mem_surviving ht
      have hne : t.token ≠ number := by omega
      simp [Request.ends, hne]
  | unsubscribe listener =>
    refine h.keep rfl rfl rfl ?_
    rw [surviving_concat rfl, ← h.live]
    simp [Subscribers.ask, Broadcast.cancelAll, Request.ends]

theorem Subscribers.follows_after (history : List (Request α)) :
    (after history).Follows history := by
  induction history using List.reverseRecOn with
  | nil => exact ⟨rfl, rfl, rfl⟩
  | append_singleton history r ih =>
    rw [after, List.foldl_append]
    exact ih.ask r

/-- After any requests the live subscriptions are those that were made and have not been ended
since, in the order in which they were made; they are what is counted, and a listener belongs to
the broadcast if one of them is its own. -/
theorem live_eq_surviving (history : List (Request α)) :
    (Subscribers.after history).broadcast.live = surviving 0 history ∧
      (Subscribers.after history).broadcast.size = (surviving 0 history).length ∧
      ∀ listener, (Subscribers.after history).broadcast.contains listener ↔
        ∃ s ∈ surviving 0 history, s.listener = listener := by
  have hlive := (Subscribers.follows_after history).live
  exact ⟨hlive, by rw [size, hlive], fun listener => by simp [contains, hlive]⟩

end

-- The first token is used twice, and the second one when its subscription is over already.
example : (Subscribers.after [.subscribe "a", .subscribe "a", .dispose 0, .dispose 0,
    .unsubscribe "a", .subscribe "b", .subscribe "a", .dispose 1]).broadcast.live =
      [⟨2, "b"⟩, ⟨3, "a"⟩] := by decide

end EditorLink.Broadcast
