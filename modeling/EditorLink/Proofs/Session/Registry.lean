import EditorLink.Proofs.Session.Exchanges
import Mathlib.Data.List.Nodup

/-!
# Who is attached

A session keeps two accounts of those who are attached to it: its broadcast, which knows them
by tokens, and the tokens of the buffers and of the listeners of the host. The two agree,
whatever is attached, detached, listened to or disposed of in whatever order: every attached
buffer has one live subscription and no other buffer has one, and all other subscriptions are
those of listeners that were not disposed of.
-/
namespace EditorLink

/-! ## Subscriptions -/

namespace Broadcast
section
variable {α : Type} {b : Broadcast α} {listener : α} {token : Nat}

/-- Every subscription has a token of its own that was issued, and nobody subscribes twice. -/
structure Sound (b : Broadcast α) : Prop where
  issued : ∀ t ∈ b.live, t.token < b.issued
  tokens : (b.live.map (·.token)).Nodup
  listeners : b.listeners.Nodup

theorem Sound.subscribe (h : b.Sound) (hl : listener ∉ b.listeners) :
    (b.subscribe listener).1.Sound where
  issued t ht := by
    obtain ht | ht := List.mem_append.mp ht
    · exact Nat.lt_succ_of_lt (h.issued t ht)
    · rw [List.mem_singleton.mp ht]
      exact Nat.lt_succ_self _
  tokens := by
    have hnew : b.issued ∉ b.live.map (·.token) := by
      intro hm
      obtain ⟨t, ht, he⟩ := List.mem_map.mp hm
      have hlt := h.issued t ht
      omega
    simpa [Broadcast.subscribe, List.nodup_append, h.tokens] using hnew
  listeners := by
    rw [listeners_subscribe]
    refine List.nodup_append.mpr ⟨h.listeners, by simp, fun l hm l' hm' he => hl ?_⟩
    rw [← List.mem_singleton.mp hm', ← he]
    exact hm

theorem Sound.cancel (h : b.Sound) (token : Nat) : (b.cancel token).Sound where
  issued t ht := h.issued t (List.mem_of_mem_filter ht)
  tokens := h.tokens.sublist (List.filter_sublist.map _)
  listeners := h.listeners.sublist (List.filter_sublist.map _)

theorem Sound.eq_of_token (h : b.Sound) {t u : Subscription α} (ht : t ∈ b.live) (hu : u ∈ b.live)
    (he : t.token = u.token) : t = u :=
  List.inj_on_of_nodup_map h.tokens ht hu he

theorem filter_subscribe (p : Subscription α → Bool) :
    (b.subscribe listener).1.live.filter p =
      b.live.filter p ++ if p ⟨b.issued, listener⟩ then [⟨b.issued, listener⟩] else [] := by
  rw [Broadcast.subscribe, List.filter_append, List.filter_singleton, Bool.cond_eq_ite]

theorem filter_cancel (p : Subscription α → Bool) :
    (b.cancel token).live.filter p = (b.live.filter p).filter (·.token ≠ token) :=
  List.filter_comm _ _ _

/-- Who has no token in common with some subscriptions does not end them. -/
theorem filter_cancel_of_ne {p : Subscription α → Bool}
    (h : ∀ t ∈ b.live, p t = true → t.token ≠ token) :
    (b.cancel token).live.filter p = b.live.filter p := by
  rw [filter_cancel, List.filter_eq_self]
  intro t ht
  simpa using h t (List.mem_of_mem_filter ht) (List.mem_filter.mp ht).2

end
end Broadcast

/-! ## Both accounts -/

/-- Whether somebody who is told what the server sends is a listener of the host. -/
def Subscriber.isHost : Subscriber → Bool
  | .host _ => true
  | .buffer _ => false

/-- What a session knows of those who are attached. -/
structure Registry where
  broadcast : Broadcast Subscriber
  attached : List (Nat × Nat)
  handles : List (String × Nat)
  /-- How many listeners of the host there ever were. -/
  hosts : Nat

/-- What a session knows of those who are attached to it. -/
def Session.registry (s : Session) : Registry :=
  ⟨s.broadcast, s.attached, s.handles, s.hosts.length⟩

namespace Registry

/-- The accounts agree, where listeners of the host have made some subscriptions and some
tokens were disposed of. -/
structure Sound (made : List (Subscription Subscriber)) (ended : List Nat) (r : Registry) :
    Prop where
  broadcast : r.broadcast.Sound
  /-- An attached buffer has one subscription, which its token ends, and others have none. -/
  buffers : ∀ place, r.broadcast.live.filter (·.listener = .buffer place) =
    (r.attached.lookup place).toList.map (⟨·, .buffer place⟩)
  /-- The other subscriptions are those of listeners that were not disposed of. -/
  hosts : r.broadcast.live.filter (·.listener.isHost) = made.filter (·.token ∉ ended)
  created : ∀ t ∈ r.broadcast.live, ∀ k, t.listener = .host k → k < r.hosts
  made_lt : ∀ t ∈ made, t.token < r.broadcast.issued
  owned : ∀ t ∈ made, ∀ u ∈ r.broadcast.live, u.token = t.token → u.listener.isHost = true
  handles : ∀ h ∈ r.handles, ∃ t ∈ made, t.token = h.2
  ended_lt : ∀ token ∈ ended, token < r.broadcast.issued

section
variable {made : List (Subscription Subscriber)} {ended : List Nat} {r : Registry}

theorem sound_empty : Sound [] [] ⟨.empty, [], [], 0⟩ where
  broadcast := ⟨by simp [Broadcast.empty], by simp [Broadcast.empty],
    by simp [Broadcast.empty, Broadcast.listeners]⟩
  buffers place := rfl
  hosts := rfl
  created := by simp [Broadcast.empty]
  made_lt := by simp
  owned := by simp
  handles := by simp
  ended_lt := by simp

theorem Sound.mem_of_lookup {place token : Nat} (h : r.Sound made ended)
    (hl : r.attached.lookup place = some token) : ⟨token, .buffer place⟩ ∈ r.broadcast.live := by
  have hm : (⟨token, .buffer place⟩ : Subscription Subscriber) ∈
      r.broadcast.live.filter (·.listener = .buffer place) := by
    rw [h.buffers place, hl]
    exact List.mem_singleton_self _
  exact List.mem_of_mem_filter hm

theorem Sound.not_mem_of_lookup {place : Nat} (h : r.Sound made ended)
    (hl : r.attached.lookup place = none) : .buffer place ∉ r.broadcast.listeners := by
  intro hm
  obtain ⟨t, ht, he⟩ := List.mem_map.mp hm
  have hf : t ∈ r.broadcast.live.filter (·.listener = .buffer place) :=
    List.mem_filter.mpr ⟨ht, decide_eq_true he⟩
  rw [h.buffers place, hl] at hf
  simp at hf

theorem lookup_concat (l : List (Nat × Nat)) (place token other : Nat) :
    (l ++ [(place, token)]).lookup other =
      (l.lookup other).or (if other = place then some token else none) := by
  rw [List.lookup_append]
  by_cases h : other = place <;> simp [h]

theorem lookup_filter_ne (l : List (Nat × Nat)) (place other : Nat) :
    (l.filter (·.1 ≠ place)).lookup other = if other = place then none else l.lookup other := by
  induction l with
  | nil => simp
  | cons x rest ih =>
    obtain ⟨key, token⟩ := x
    have hcons : ((key, token) :: rest).lookup other =
        if other = key then some token else rest.lookup other := by
      by_cases ho : other = key
      · simp [ho]
      · simp [List.lookup_cons, beq_false_of_ne ho, ho]
    by_cases hk : key = place
    · rw [List.filter_cons_of_neg (by simpa using hk), ih, hcons, hk]
      by_cases ho : other = place <;> simp [ho]
    · rw [List.filter_cons_of_pos (by simpa using hk), List.lookup_cons, ih, hcons]
      by_cases ho : other = key
      · simp [ho, hk]
      · simp [beq_false_of_ne ho, ho]

/-- A buffer that is not attached subscribes. -/
theorem Sound.attach {place : Nat} (h : r.Sound made ended)
    (hl : r.attached.lookup place = none) :
    Sound made ended { r with
      broadcast := (r.broadcast.subscribe (.buffer place)).1
      attached := r.attached ++ [(place, r.broadcast.issued)] } where
  broadcast := h.broadcast.subscribe (h.not_mem_of_lookup hl)
  buffers other := by
    rw [Broadcast.filter_subscribe, h.buffers, lookup_concat]
    by_cases ho : other = place
    · subst ho
      simp [hl]
    · simp [ho, Ne.symm ho]
  hosts := by
    rw [Broadcast.filter_subscribe, h.hosts]
    simp [Subscriber.isHost]
  created t ht k hk := by
    obtain ht | ht := List.mem_append.mp ht
    · exact h.created t ht k hk
    · rw [List.mem_singleton.mp ht] at hk
      cases hk
  made_lt t ht := Nat.lt_succ_of_lt (h.made_lt t ht)
  owned t ht u hu he := by
    obtain hu | hu := List.mem_append.mp hu
    · exact h.owned t ht u hu he
    · -- the new token was not issued before
      rw [List.mem_singleton.mp hu] at he
      have hlt := h.made_lt t ht
      simp only at he
      omega
  handles := h.handles
  ended_lt token ht := Nat.lt_succ_of_lt (h.ended_lt token ht)

/-- The subscription of an attached buffer ends. -/
theorem Sound.detach {place token : Nat} (h : r.Sound made ended)
    (hl : r.attached.lookup place = some token) :
    Sound made ended { r with
      broadcast := r.broadcast.cancel token
      attached := r.attached.filter (·.1 ≠ place) } := by
  -- the token is that of this buffer alone
  have hown : ∀ t ∈ r.broadcast.live, t.listener ≠ .buffer place → t.token ≠ token := by
    intro t ht hn he
    exact hn (congrArg Subscription.listener
      (h.broadcast.eq_of_token ht (h.mem_of_lookup hl) he))
  refine ⟨h.broadcast.cancel token, fun other => ?_, ?_, ?_, h.made_lt, ?_, h.handles, h.ended_lt⟩
  · rw [lookup_filter_ne]
    by_cases ho : other = place
    · subst ho
      rw [Broadcast.filter_cancel, h.buffers, hl]
      simp
    · rw [if_neg ho, ← h.buffers]
      refine Broadcast.filter_cancel_of_ne fun t ht hp => hown t ht ?_
      rw [of_decide_eq_true hp]
      simpa using ho
  · rw [← h.hosts]
    refine Broadcast.filter_cancel_of_ne fun t ht hp => hown t ht fun he => ?_
    rw [he] at hp
    cases hp
  · exact fun t ht => h.created t (List.mem_of_mem_filter ht)
  · exact fun t ht u hu => h.owned t ht u (List.mem_of_mem_filter hu)

/-- A listener of the host subscribes. -/
theorem Sound.listen (h : r.Sound made ended) (name : String) :
    Sound (made ++ [⟨r.broadcast.issued, .host r.hosts⟩]) ended
      ⟨(r.broadcast.subscribe (.host r.hosts)).1, r.attached,
        (name, r.broadcast.issued) :: r.handles, r.hosts + 1⟩ where
  broadcast := by
    refine h.broadcast.subscribe fun hm => ?_
    obtain ⟨t, ht, he⟩ := List.mem_map.mp hm
    exact Nat.lt_irrefl _ (h.created t ht _ he)
  buffers place := by
    rw [Broadcast.filter_subscribe, h.buffers]
    simp
  hosts := by
    have hfresh : r.broadcast.issued ∉ ended := fun hm => Nat.lt_irrefl _ (h.ended_lt _ hm)
    rw [Broadcast.filter_subscribe, h.hosts]
    simp [Subscriber.isHost, List.filter_append, hfresh]
  created t ht k hk := by
    obtain ht | ht := List.mem_append.mp ht
    · exact Nat.lt_succ_of_lt (h.created t ht k hk)
    · rw [List.mem_singleton.mp ht] at hk
      cases hk
      exact Nat.lt_succ_self _
  made_lt t ht := by
    obtain ht | ht := List.mem_append.mp ht
    · exact Nat.lt_succ_of_lt (h.made_lt t ht)
    · rw [List.mem_singleton.mp ht]
      exact Nat.lt_succ_self _
  owned t ht u hu he := by
    obtain hu | hu := List.mem_append.mp hu
    · obtain ht | ht := List.mem_append.mp ht
      · exact h.owned t ht u hu he
      · rw [List.mem_singleton.mp ht] at he
        have hlt := h.broadcast.issued u hu
        simp only at he
        omega
    · rw [List.mem_singleton.mp hu]
      rfl
  handles x hx := by
    obtain rfl | hx := List.mem_cons.mp hx
    · exact ⟨_, List.mem_append_right _ (List.mem_singleton_self _), rfl⟩
    · obtain ⟨t, ht, he⟩ := h.handles x hx
      exact ⟨t, List.mem_append_left _ ht, he⟩
  ended_lt token ht := Nat.lt_succ_of_lt (h.ended_lt token ht)

/-- A token that a listener was given is disposed of, perhaps once more. -/
theorem Sound.dispose {token : Nat} (h : r.Sound made ended)
    (ht : ∃ t ∈ made, t.token = token) :
    Sound made (ended ++ [token]) { r with broadcast := r.broadcast.cancel token } := by
  obtain ⟨given, hgiven, rfl⟩ := ht
  refine ⟨h.broadcast.cancel _, fun place => ?_, ?_, ?_, h.made_lt, ?_, h.handles, ?_⟩
  · rw [← h.buffers]
    refine Broadcast.filter_cancel_of_ne fun t ht hp he => ?_
    have hhost := h.owned given hgiven t ht he
    rw [of_decide_eq_true hp] at hhost
    cases hhost
  · rw [Broadcast.filter_cancel, h.hosts, List.filter_filter]
    congr 1
    funext t
    simp [and_comm]
  · exact fun t ht => h.created t (List.mem_of_mem_filter ht)
  · exact fun t ht u hu => h.owned t ht u (List.mem_of_mem_filter hu)
  · intro token hm
    obtain hm | hm := List.mem_append.mp hm
    · exact h.ended_lt token hm
    · rw [List.mem_singleton.mp hm]
      exact h.made_lt given hgiven

theorem Sound.mem_buffer_iff {place : Nat} (h : r.Sound made ended) :
    .buffer place ∈ r.broadcast.listeners ↔ (r.attached.lookup place).isSome = true := by
  constructor
  · intro hm
    by_contra hn
    exact h.not_mem_of_lookup (Option.not_isSome_iff_eq_none.mp hn) hm
  · intro hs
    obtain ⟨token, hl⟩ := Option.isSome_iff_exists.mp hs
    exact List.mem_map_of_mem (f := (·.listener)) (h.mem_of_lookup hl)

theorem Sound.mem_host_iff {k : Nat} (h : r.Sound made ended) :
    .host k ∈ r.broadcast.listeners ↔ ∃ t ∈ made, t.listener = .host k ∧ t.token ∉ ended := by
  have hmem (t : Subscription Subscriber) (ht : t.listener = .host k) :
      t ∈ r.broadcast.live ↔ t ∈ made ∧ t.token ∉ ended := by
    have heq := congrArg (t ∈ ·) h.hosts
    simpa [List.mem_filter, ht, Subscriber.isHost] using heq
  constructor
  · intro hm
    obtain ⟨t, ht, he⟩ := List.mem_map.mp hm
    obtain ⟨hmade, hended⟩ := (hmem t he).mp ht
    exact ⟨t, hmade, he, hended⟩
  · rintro ⟨t, hmade, he, hended⟩
    exact List.mem_map.mpr ⟨t, (hmem t he).mpr ⟨hmade, hended⟩, he⟩

end
end Registry

/-! ## What leaves the accounts alone -/

/-- What an event tells that a listener of the host has heard. -/
def Event.heard? : Event → Option (String × Push)
  | .heard name push => some (name, push)
  | _ => none

namespace Session

/-- What the listeners of the host have heard so far. -/
def heard (s : Session) : List (String × Push) := s.trace.filterMap Event.heard?

/-- Nobody came or went, and no listener of the host was told anything. -/
structure Still (s t : Session) : Prop where
  registry : t.registry = s.registry
  heard : t.heard = s.heard

section
variable {s t : Session}

theorem Still.refl (s : Session) : Still s s := ⟨rfl, rfl⟩

theorem Still.trans {u : Session} (h : Still s t) (h' : Still t u) : Still s u :=
  ⟨h'.registry.trans h.registry, h'.heard.trans h.heard⟩

theorem still_of_trace {events : List Event} (hr : t.registry = s.registry)
    (ht : t.trace = s.trace ++ events) (he : ∀ e ∈ events, e.heard? = none) : Still s t where
  registry := hr
  heard := by
    rw [heard, ht, List.filterMap_append, List.filterMap_eq_nil_iff.mpr he, List.append_nil]
    rfl

theorem still_record (s : Session) {e : Event} (h : e.heard? = none) : Still s (s.record e) :=
  still_of_trace rfl rfl (by simpa using h)

theorem Local.still (h : Local s t) : Still s t := by
  obtain ⟨buffers, events, rfl, -, hout⟩ := h
  refine still_of_trace rfl rfl fun e he => ?_
  have ho := hout e he
  cases e <;> first | rfl | cases ho

theorem still_close (s : Session) : Still s s.close := by
  unfold close
  split
  · exact Still.refl s
  · exact still_of_trace rfl rfl (by simp [Event.heard?])

theorem still_joined (s : Session) : Still s s.joined.1 := by
  unfold joined
  split <;> exact ⟨rfl, rfl⟩

theorem still_handshake (s : Session) (next : AfterHandshake) : Still s (s.handshake next).1 := by
  unfold handshake
  split
  · exact Still.refl s
  · dsimp only
    split
    · exact s.still_joined.trans (local_afterHandshake _ next _).still
    · exact s.still_joined

theorem still_exchangeFailed (s : Session) (number : Nat) (why : Failure) :
    Still s (s.exchangeFailed number why) := by
  unfold exchangeFailed
  dsimp only
  split <;> exact ⟨rfl, rfl⟩

theorem still_beginExchange (s : Session) (number : Nat) : Still s (s.beginExchange number) := by
  obtain ⟨why, -, hb⟩ | ⟨i, -, hb⟩ := s.beginExchange_cases number
  · rw [hb]
    exact ⟨rfl, rfl⟩
  · rw [hb]
    exact still_of_trace rfl rfl (by simp [Event.heard?])

theorem still_exchangeAnswered (s : Session) (number : Nat) (answer : Except Failure Value) :
    Still s (s.exchangeAnswered number answer) := by
  obtain ⟨-, why, ha⟩ | ⟨c, -, ⟨-, ha⟩ | ⟨-, ha⟩⟩ := s.exchangeAnswered_cases number answer
  · rw [ha]
    exact s.still_exchangeFailed number why
  · rw [ha]
    exact ⟨rfl, rfl⟩
  · rw [ha]
    exact still_of_trace rfl rfl (by simp [Event.heard?])

theorem still_deliver (s : Session) (isDelivered : Bool) (n : Notice) :
    Still s (Pool.deliver s isDelivered n) := by
  cases isDelivered with
  | false => exact Still.refl s
  | true => exact s.still_record rfl

/-- Only commands change who is attached, or have listeners told anything. -/
theorem still_begin {depth who : Nat} {operation : Operation} {a : Advance}
    (h : s.begin depth who operation = some a) (hc : ∀ c, operation ≠ .perform c) :
    Still s a.1 := by
  obtain hl | ⟨c, rfl⟩ | rfl | ⟨name, text, rfl⟩ := s.local_begin depth who h
  · exact hl.still
  · exact absurd rfl (hc c)
  · cases h
    exact s.still_handshake .finish
  · cases h
    unfold inBuffer
    split
    · exact Still.refl s
    · exact s.still_handshake _

theorem heard_onBuffer (name : String) {act : Nat → Session}
    (h : ∀ place, (act place).heard = s.heard) : (s.onBuffer name act).1.heard = s.heard := by
  unfold onBuffer
  split
  · rfl
  · exact h _

theorem heard_attach (s : Session) (place : Nat) : (s.attach place).heard = s.heard := by
  unfold attach
  split <;> rfl

theorem heard_detach (s : Session) (place : Nat) : (s.detach place).heard = s.heard := by
  unfold detach
  split
  · rfl
  · dsimp only
    split
    · exact (still_close _).heard
    · rfl

/-- A command that hands out no message has no listener told anything. -/
theorem heard_apply (s : Session) (c : Command) : (s.apply c).1.heard = s.heard := by
  cases c with
  | create name uri language options => exact heard_attach _ _
  | attach name => exact heard_onBuffer name fun place => s.heard_attach place
  | detach name => exact heard_onBuffer name fun place => s.heard_detach place
  | close => exact s.still_close.heard
  | dispose name =>
    simp only [apply, dispose]
    split <;> rfl
  | setFeatures name changes => exact heard_onBuffer name fun place => rfl
  | hideTooltip name => exact heard_onBuffer name fun place => rfl
  | note what => exact (s.still_record rfl).heard
  | listen | publish | fail => rfl

end
end Session

/-! ## What commands do to the accounts -/

namespace Session
section
variable {s : Session} {made : List (Subscription Subscriber)} {ended : List Nat}

theorem sound_attach (h : s.registry.Sound made ended) (place : Nat) :
    (s.attach place).registry.Sound made ended := by
  unfold attach
  split
  · exact h
  · exact h.attach ‹_›

theorem isSome_token?_attach (s : Session) (place other : Nat) :
    ((s.attach place).token? other).isSome =
      if other = place then true else (s.token? other).isSome := by
  unfold attach
  split
  · rename_i hl
    by_cases ho : other = place <;> simp [ho, hl]
  · simp only [token?, Registry.lookup_concat]
    by_cases ho : other = place <;> simp [ho]

theorem sound_detach (h : s.registry.Sound made ended) (place : Nat) :
    (s.detach place).registry.Sound made ended := by
  unfold detach
  split
  · exact h
  · rename_i hl
    have hafter := h.detach hl
    dsimp only
    split
    · rw [(still_close _).registry]
      exact hafter
    · exact hafter

theorem isSome_token?_detach (s : Session) (place other : Nat) :
    ((s.detach place).token? other).isSome =
      if other = place then false else (s.token? other).isSome := by
  have hlookup (t : Session) (ht : t.attached = s.attached.filter (·.1 ≠ place)) :
      (t.token? other).isSome = if other = place then false else (s.token? other).isSome := by
    rw [token?, ht, Registry.lookup_filter_ne]
    by_cases ho : other = place <;> simp [ho, token?]
  unfold detach
  split
  · rename_i hl
    by_cases ho : other = place <;> simp [ho, hl]
  · dsimp only
    split
    · exact hlookup _ (congrArg Registry.attached (still_close _).registry)
    · exact hlookup _ rfl

theorem sound_dispose (h : s.registry.Sound made ended) (name : String) :
    (s.dispose name).registry.Sound made (ended ++ (s.handles.lookup name).toList) := by
  unfold dispose
  split
  · rename_i hl
    simpa [hl] using h
  · rename_i token hl
    rw [hl]
    refine h.dispose (h.handles (name, token) ?_)
    obtain ⟨before, after, heq, -⟩ := List.lookup_eq_some_iff.mp hl
    rw [show s.registry.handles = s.handles from rfl, heq]
    simp

end
end Session
end EditorLink
