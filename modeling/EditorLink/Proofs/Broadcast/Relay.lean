import Mathlib.Tactic.Common

/-!
# Notes that are handed on

A relay hands on every note to all who listen when it is sent. Whoever is told something may
act on the state: it does this and that, sends further notes, which are handed on before it
goes on, and may fail, which leaves out what it had still to do.

The log of a run tells what happened in order. Since notes are sent while others are handed
on, the entries of one note lie between those of another as between brackets; `calls` reads
off whom one note was told. A run is what comes of acts wherever notes may be nested deeply
enough.
-/
namespace EditorLink

/-- What comes of an act. -/
inductive Effect (σ ν : Type) where
  | does (after : σ)
  /-- Whoever acts goes no further. -/
  | fails (after : σ)
  | sends (note : ν)

/-- Something that hands on notes to listeners who act. -/
structure Relay (σ ν ι α : Type) where
  /-- Those who are told a note that is sent now. -/
  listeners : σ → List ι
  /-- A listener is told a note, and wants to do some acts. -/
  tell : σ → ι → ν → σ × List α
  act : σ → α → Effect σ ν

/-- Something that happens in a run, with the state before it. -/
inductive Happening (σ ν ι α : Type) where
  | did (before : σ) (act : α)
  | sent (before : σ) (note : ν)
  | told (before : σ) (listener : ι) (note : ν)
  /-- Everybody was told the note that was sent last of those that are not over. -/
  | ended (before : σ)

/-- What is still to do: acts, or to tell some listeners a note. -/
inductive Frame (ν ι α : Type) where
  | acting (acts : List α)
  | telling (note : ν) (listeners : List ι)

section
variable {σ ν ι α : Type}

namespace Happening

def before : Happening σ ν ι α → σ
  | did s _ | sent s _ | told s _ _ | ended s => s

/-- Who is told what. -/
def told? : Happening σ ν ι α → Option (ι × ν)
  | told _ listener note => some (listener, note)
  | _ => none

end Happening

/-- Whom a note is told, read off the entries that follow the one where it was sent; `depth`
of the notes that were sent after it are not over. -/
def calls : Nat → List (Happening σ ν ι α) → List (ι × ν)
  | _, [] => []
  | depth, .did _ _ :: rest => calls depth rest
  | depth, .sent _ _ :: rest => calls (depth + 1) rest
  | 0, .told _ listener note :: rest => (listener, note) :: calls 0 rest
  | depth + 1, .told _ _ _ :: rest => calls (depth + 1) rest
  | 0, .ended _ :: _ => []
  | depth + 1, .ended _ :: rest => calls depth rest

/-- Whom a frame itself tells what, not counting what those who act on it send. -/
def Frame.calls : Frame ν ι α → Nat → List (ι × ν)
  | telling note listeners, 0 => listeners.map (·, note)
  | _, _ => []

namespace Relay

/-- What a run does from some state, and what it leaves. -/
inductive Runs (r : Relay σ ν ι α) : σ → Frame ν ι α → List (Happening σ ν ι α) → σ → Prop where
  | done {s : σ} : r.Runs s (.acting []) [] s
  | does {s t u : σ} {a : α} {rest : List α} {log : List (Happening σ ν ι α)}
      (effect : r.act s a = .does t) (acts : r.Runs t (.acting rest) log u) :
      r.Runs s (.acting (a :: rest)) (.did s a :: log) u
  | fails {s t : σ} {a : α} {rest : List α} (effect : r.act s a = .fails t) :
      r.Runs s (.acting (a :: rest)) [.did s a] t
  | sends {s t u : σ} {a : α} {rest : List α} {note : ν} {inner outer : List (Happening σ ν ι α)}
      (effect : r.act s a = .sends note) (tells : r.Runs s (.telling note (r.listeners s)) inner t)
      (acts : r.Runs t (.acting rest) outer u) :
      r.Runs s (.acting (a :: rest)) (.sent s note :: (inner ++ .ended t :: outer)) u
  | told {s : σ} {note : ν} : r.Runs s (.telling note []) [] s
  | tells {s t u : σ} {note : ν} {listener : ι} {rest : List ι}
      {inner outer : List (Happening σ ν ι α)}
      (acts : r.Runs (r.tell s listener note).1 (.acting (r.tell s listener note).2) inner t)
      (tells : r.Runs t (.telling note rest) outer u) :
      r.Runs s (.telling note (listener :: rest)) (.told s listener note :: (inner ++ outer)) u

/-- Does acts in turn up to the first that fails, with a way of sending notes. -/
def actWith (r : Relay σ ν ι α) (send : σ → ν → Option σ) : σ → List α → Option σ
  | s, [] => some s
  | s, a :: rest =>
    match r.act s a with
    | .does t => r.actWith send t rest
    | .fails t => some t
    | .sends note => (send s note).bind fun t => r.actWith send t rest

/-- Tells one listener a note, with a way of doing what it wants to do. -/
def tellWith (r : Relay σ ν ι α) (perform : σ → List α → Option σ) (note : ν) (s : σ)
    (listener : ι) : Option σ :=
  perform (r.tell s listener note).1 (r.tell s listener note).2

/-- Hands a note on to all who listen, with a way of doing what they want to do. -/
def sendWith (r : Relay σ ν ι α) (perform : σ → List α → Option σ) (s : σ) (note : ν) : Option σ :=
  (r.listeners s).foldlM (r.tellWith perform note) s

/-- Does acts in turn, where notes may be nested to a depth. -/
def perform (r : Relay σ ν ι α) : Nat → σ → List α → Option σ
  | 0 => r.actWith fun _ _ => none
  | depth + 1 => r.actWith (r.sendWith (r.perform depth))

/-- What a frame comes to where notes may be nested to a depth. -/
def result? (r : Relay σ ν ι α) (depth : Nat) (s : σ) : Frame ν ι α → Option σ
  | .acting acts => r.perform depth s acts
  | .telling note listeners => listeners.foldlM (r.tellWith (r.perform depth) note) s

/-- The state after something has happened. -/
def after (r : Relay σ ν ι α) : Happening σ ν ι α → σ
  | .did s a =>
    match r.act s a with
    | .does t | .fails t => t
    | .sends _ => s
  | .sent s _ | .ended s => s
  | .told s listener note => (r.tell s listener note).1

/-- A log leads from one state to another. -/
def Leads (r : Relay σ ν ι α) : σ → List (Happening σ ν ι α) → σ → Prop
  | s, [], t => s = t
  | s, x :: rest, t => x.before = s ∧ r.Leads (r.after x) rest t

section
variable {r : Relay σ ν ι α} {s t u : σ} {f : Frame ν ι α} {log : List (Happening σ ν ι α)}

theorem runs_actWith {send : σ → ν → Option σ} {acts : List α}
    (hsend : ∀ {s t note}, send s note = some t →
      ∃ log, r.Runs s (.telling note (r.listeners s)) log t)
    (h : r.actWith send s acts = some t) : ∃ log, r.Runs s (.acting acts) log t := by
  induction acts generalizing s with
  | nil =>
    cases h
    exact ⟨[], .done⟩
  | cons a rest ih =>
    simp only [actWith] at h
    split at h
    · rename_i after heffect
      obtain ⟨log, acts⟩ := ih h
      exact ⟨_, .does heffect acts⟩
    · rename_i after heffect
      cases h
      exact ⟨_, .fails heffect⟩
    · rename_i note heffect
      obtain ⟨middle, hm, hrest⟩ := Option.bind_eq_some_iff.mp h
      obtain ⟨inner, tells⟩ := hsend hm
      obtain ⟨outer, acts⟩ := ih hrest
      exact ⟨_, .sends heffect tells acts⟩

theorem runs_tellWith {perform : σ → List α → Option σ} {note : ν} {listeners : List ι}
    (hperform : ∀ {s t acts}, perform s acts = some t → ∃ log, r.Runs s (.acting acts) log t)
    (h : listeners.foldlM (r.tellWith perform note) s = some t) :
    ∃ log, r.Runs s (.telling note listeners) log t := by
  induction listeners generalizing s with
  | nil =>
    cases h
    exact ⟨[], .told⟩
  | cons listener rest ih =>
    rw [List.foldlM_cons] at h
    obtain ⟨middle, hm, hrest⟩ := Option.bind_eq_some_iff.mp h
    obtain ⟨inner, acts⟩ := hperform hm
    obtain ⟨outer, tells⟩ := ih hrest
    exact ⟨_, .tells acts tells⟩

/-- Acts that come to an end are a run. -/
theorem runs_of_perform {depth : Nat} {acts : List α} (h : r.perform depth s acts = some t) :
    ∃ log, r.Runs s (.acting acts) log t := by
  induction depth generalizing s t acts with
  | zero => exact runs_actWith (fun h => by cases h) h
  | succ depth ih => exact runs_actWith (runs_tellWith ih) h

theorem perform_cons {a : α} {acts : List α} (heffect : r.act s a = .does t) (depth : Nat) :
    r.perform depth s (a :: acts) = r.perform depth t acts := by
  cases depth <;> simp only [perform, actWith, heffect]

theorem perform_cons_of_fails {a : α} {acts : List α} (heffect : r.act s a = .fails t)
    (depth : Nat) : r.perform depth s (a :: acts) = some t := by
  cases depth <;> simp only [perform, actWith, heffect]

theorem perform_cons_of_sends {a : α} {acts : List α} {note : ν}
    (heffect : r.act s a = .sends note) (depth : Nat) :
    r.perform (depth + 1) s (a :: acts) =
      (r.sendWith (r.perform depth) s note).bind fun t => r.perform (depth + 1) t acts := by
  simp only [perform, actWith, heffect]

/-- A run is done wherever notes may be nested deeply enough. -/
theorem Runs.result? (run : r.Runs s f log t) :
    ∃ enough, ∀ depth, enough ≤ depth → r.result? depth s f = some t := by
  induction run with
  | done => exact ⟨0, fun depth _ => by cases depth <;> rfl⟩
  | told => exact ⟨0, fun depth _ => rfl⟩
  | does effect acts ih =>
    obtain ⟨enough, h⟩ := ih
    exact ⟨enough, fun depth hd => (perform_cons effect depth).trans (h depth hd)⟩
  | fails effect => exact ⟨0, fun depth _ => perform_cons_of_fails effect depth⟩
  | @sends s t u a rest note inner outer effect tells acts ihInner ihOuter =>
    obtain ⟨deep, hinner⟩ := ihInner
    obtain ⟨enough, houter⟩ := ihOuter
    refine ⟨max (deep + 1) enough, fun depth hd => ?_⟩
    obtain ⟨depth, rfl⟩ : ∃ d, depth = d + 1 := ⟨depth - 1, by omega⟩
    have ht : r.sendWith (r.perform depth) s note = some t := hinner depth (by omega)
    have hu : r.perform (depth + 1) t rest = some u := houter (depth + 1) (by omega)
    simp only [Relay.result?, perform_cons_of_sends effect, ht, Option.bind_some, hu]
  | @tells s t u note listener rest inner outer acts tells ihInner ihOuter =>
    obtain ⟨deep, hinner⟩ := ihInner
    obtain ⟨enough, houter⟩ := ihOuter
    refine ⟨max deep enough, fun depth hd => ?_⟩
    have ht : r.tellWith (r.perform depth) note s listener = some t := hinner depth (by omega)
    have hu : rest.foldlM (r.tellWith (r.perform depth) note) t = some u := houter depth (by omega)
    simp only [Relay.result?, List.foldlM_cons, ht, Option.bind_eq_bind, Option.bind_some, hu]

/-- A run is what is done wherever notes may be nested deeply enough. -/
theorem perform_iff_runs {acts : List α} :
    (∃ enough, ∀ depth, enough ≤ depth → r.perform depth s acts = some t) ↔
      ∃ log, r.Runs s (.acting acts) log t := by
  constructor
  · rintro ⟨enough, h⟩
    exact runs_of_perform (h enough (Nat.le_refl enough))
  · rintro ⟨log, run⟩
    exact run.result?

theorem Leads.append {more : List (Happening σ ν ι α)} (h : r.Leads s log t)
    (h' : r.Leads t more u) : r.Leads s (log ++ more) u := by
  induction log generalizing s with
  | nil =>
    cases h
    exact h'
  | cons x rest ih => exact ⟨h.1, ih h.2⟩

/-- What every entry of a log keeps holds after it and before every entry. -/
theorem Leads.keeps {P : List (Happening σ ν ι α) → σ → Prop} (h : r.Leads s log t)
    (keep : ∀ past x, P past x.before → P (past ++ [x]) (r.after x))
    {past : List (Happening σ ν ι α)} (hs : P past s) :
    P (past ++ log) t ∧ ∀ first x rest, log = first ++ x :: rest → P (past ++ first) x.before := by
  induction log generalizing past s with
  | nil =>
    cases h
    exact ⟨by simpa using hs, by simp⟩
  | cons x rest ih =>
    obtain ⟨rfl, hrest⟩ := h
    obtain ⟨hend, hall⟩ := ih hrest (keep past x hs)
    refine ⟨by simpa using hend, fun first y later hl => ?_⟩
    cases first with
    | nil =>
      cases hl
      simpa using hs
    | cons z first =>
      rw [List.cons_append, List.cons.injEq] at hl
      obtain ⟨rfl, hl⟩ := hl
      simpa using hall first y later hl

/-- The log of a run leads from where the run starts to what it leaves. -/
theorem Runs.leads (run : r.Runs s f log t) : r.Leads s log t := by
  induction run with
  | done | told => exact rfl
  | does effect acts ih =>
    refine ⟨rfl, ?_⟩
    simpa only [after, effect] using ih
  | fails effect => exact ⟨rfl, by simp only [after, effect, Leads]⟩
  | @sends s t u a rest note inner outer effect tells acts ihInner ihOuter =>
    have hended : r.Leads t (.ended t :: outer) u := ⟨rfl, ihOuter⟩
    exact ⟨rfl, ihInner.append hended⟩
  | tells acts tells ihInner ihOuter => exact ⟨rfl, ihInner.append ihOuter⟩

/-- A run tells whom its frame tells; what happens in between is for other notes. -/
theorem Runs.calls_append (run : r.Runs s f log t) (depth : Nat)
    (rest : List (Happening σ ν ι α)) :
    calls depth (log ++ rest) = f.calls depth ++ calls depth rest := by
  induction run generalizing depth rest with
  | done => rfl
  | does effect acts ih => exact ih depth rest
  | fails effect => rfl
  | sends effect tells acts ihInner ihOuter =>
    have hinner := ihInner (depth + 1)
    simp only [List.cons_append, List.append_assoc, calls, hinner]
    exact ihOuter depth rest
  | told => cases depth <;> rfl
  | @tells s t u note listener others inner outer acts tells ihInner ihOuter =>
    have hinner : ∀ more, calls depth (inner ++ more) = calls depth more := ihInner depth
    cases depth with
    | zero =>
      have houter : calls 0 (outer ++ rest) = others.map (·, note) ++ calls 0 rest :=
        ihOuter 0 rest
      simp only [List.cons_append, List.append_assoc, calls, hinner, houter, Frame.calls,
        List.map_cons]
    | succ depth =>
      simp only [List.cons_append, List.append_assoc, calls, hinner]
      exact ihOuter (depth + 1) rest

/-- Wherever a note was sent, it was told those who listened then, once each and in order. -/
def Fair (r : Relay σ ν ι α) : List (Happening σ ν ι α) → Prop
  | [] => True
  | .sent s note :: rest => calls 0 rest = (r.listeners s).map (·, note) ∧ r.Fair rest
  | _ :: rest => r.Fair rest

theorem Runs.fair_append (run : r.Runs s f log t) {rest : List (Happening σ ν ι α)}
    (h : r.Fair rest) : r.Fair (log ++ rest) := by
  induction run generalizing rest with
  | done | told => exact h
  | does effect acts ih => exact ih h
  | fails effect => exact h
  | @sends s t u a acts note inner outer effect tells acts ihInner ihOuter =>
    have houter : r.Fair (.ended t :: (outer ++ rest)) := ihOuter h
    have hcalls : calls 0 (inner ++ .ended t :: (outer ++ rest)) = (r.listeners s).map (·, note) :=
      (tells.calls_append 0 _).trans (List.append_nil _)
    rw [List.cons_append, List.append_assoc]
    exact ⟨hcalls, ihInner houter⟩
  | tells acts tells ihInner ihOuter =>
    rw [List.cons_append, List.append_assoc]
    exact ihInner (ihOuter h)

theorem Fair.calls_eq {first rest : List (Happening σ ν ι α)} {note : ν}
    (h : r.Fair (first ++ .sent s note :: rest)) :
    calls 0 rest = (r.listeners s).map (·, note) := by
  induction first with
  | nil => exact h.1
  | cons x first ih =>
    cases x with
    | sent => exact ih h.2
    | _ => exact ih h

/-- Every note that is sent in a run is told those who listen when it is sent, once each and
in order, whatever they do. -/
theorem Runs.calls_eq (run : r.Runs s f log t) {first rest : List (Happening σ ν ι α)} {found : σ}
    {note : ν} (hlog : log = first ++ .sent found note :: rest) :
    calls 0 rest = (r.listeners found).map (·, note) := by
  have hfair : r.Fair (log ++ []) := run.fair_append trivial
  rw [List.append_nil, hlog] at hfair
  exact hfair.calls_eq

end
end Relay
end
end EditorLink
