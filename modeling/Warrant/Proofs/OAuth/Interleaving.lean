-- Calls that run side by side. A call is cut where it lets go of a lock, so
-- each of its steps has the server for itself, and steps of other calls can
-- come in between. What a call took out in one step, it holds until the next.
--
-- Only two calls have more than one step. An exchange checks the client, takes
-- the code, makes up the tokens and stores them. A call for a code checks the
-- client, makes up the code and stores it.
import Mathlib.Logic.Function.Iterate
import Warrant.Proofs.OAuth.Run

namespace Warrant.OAuth

/-! ## The steps of a call -/

/-- How far a call has come. -/
inductive Stage
  | begins
  | admitted
  | holds (g : AuthorizationCode)
  | brings (p : TokenPair)
  | offers (g : AuthorizationCode)
  | answered (a : Act)
deriving DecidableEq

/-- The next step of a call. A call of one step does it at the start. -/
def Server.advance (s : Server) (now : Instant) : Call → Stage → Server × Stage
  | .issueCode _ client subject redirectUri scopes, .begins =>
    match s.checkRedirect client redirectUri with
    | .error e =>
      (s, .answered (.issueCode client subject redirectUri scopes (.error (.refused e))))
    | .ok () => (s, .admitted)
  | .issueCode fresh client subject redirectUri scopes, .admitted =>
    match now.plusSeconds? codeTtl with
    | none => (s, .answered (.issueCode client subject redirectUri scopes (.error .died)))
    | some expiresAt => (s, .offers ⟨fresh, client, subject, redirectUri, scopes, expiresAt⟩)
  | .issueCode _ client subject redirectUri scopes, .offers g =>
    let (s, answer) := s.storeCode g
    (s, .answered (.issueCode client subject redirectUri scopes (answer.mapError .refused)))
  | .exchange _ code client secret, .begins =>
    if s.authenticates client secret then (s, .admitted)
    else
      (s, .answered (.exchange code client secret (.error (.refused .invalidClientCredentials))))
  | .exchange _ code client secret, .admitted =>
    match s.takeCode now code client with
    | (s, .error f) => (s, .answered (.exchange code client secret (.error f)))
    | (s, .ok g) => (s, .holds g)
  | .exchange fresh code client secret, .holds g =>
    match s.pairFor? now fresh g with
    | none => (s, .answered (.exchange code client secret (.error .died)))
    | some p => (s, .brings p)
  | .exchange _ code client secret, .brings p =>
    let (s, answer) := s.storeTokens p
    (s, .answered (.exchange code client secret (answer.mapError .refused)))
  | call, .begins =>
    let (s, a) := s.step now call
    (s, .answered a)
  | _, stage => (s, stage)

/-! ## Many calls -/

/-- A server, how far each call on it has come, and what was answered. The
newest answer stands first. -/
structure World where
  server : Server
  stage : Nat → Stage
  log : List Event

/-- What the log says of a call that has come so far. -/
def Stage.events (now : Instant) : Stage → List Event
  | answered a => [⟨now, a⟩]
  | _ => []

namespace World

def new (settings : OAuthSettings) : World := ⟨.new settings, fun _ => .begins, []⟩

/-- The world after a call came to a stage and left the server like this. -/
def reach (w : World) (now : Instant) (i : Nat) (s : Server) (next : Stage) : World :=
  ⟨s, Function.update w.stage i next, next.events now ++ w.log⟩

/-- The next step of one call. A call that is answered has no more steps. -/
def move (calls : Nat → Call) (w : World) (now : Instant) (i : Nat) : World :=
  match w.stage i with
  | .answered _ => w
  | stage =>
    let (s, next) := w.server.advance now (calls i) stage
    w.reach now i s next

end World

/-- The world after some steps, each with its instant and its call. The
newest step stands first, and the clock may go either way. -/
def play (settings : OAuthSettings) (calls : Nat → Call) : List (Instant × Nat) → World
  | [] => .new settings
  | (now, i) :: earlier => (play settings calls earlier).move calls now i

namespace World

variable {calls : Nat → Call} {w : World} {now : Instant} {i : Nat}

@[simp]
theorem reach_stage (w : World) (now : Instant) (i : Nat) (s : Server) (next : Stage) :
    (w.reach now i s next).stage i = next :=
  Function.update_self ..

theorem reach_stage_of_ne {j : Nat} (h : j ≠ i) (s : Server) (next : Stage) :
    (w.reach now i s next).stage j = w.stage j :=
  Function.update_of_ne h ..

theorem reach_reach {s t : Server} {stage next : Stage} (h : stage.events now = []) :
    (w.reach now i s stage).reach now i t next = w.reach now i t next := by
  unfold reach
  rw [Function.update_idem, h, List.nil_append]

/-- The stage that a call is at, it has reached. -/
theorem reach_same (h : (w.stage i).events now = []) :
    w.reach now i w.server (w.stage i) = w := by
  rw [reach, Function.update_eq_self, h, List.nil_append]

theorem move_answered {a : Act} (h : w.stage i = .answered a) : w.move calls now i = w := by
  rw [move, h]

theorem move_open (h : (w.stage i).events now = []) :
    w.move calls now i = w.reach now i (w.server.advance now (calls i) (w.stage i)).1
      (w.server.advance now (calls i) (w.stage i)).2 := by
  unfold move
  split
  · rename_i a ha
    rw [ha] at h
    cases h
  · rfl

/-! ## A call alone -/

theorem iterate_answered {a : Act} (h : w.stage i = .answered a) (n : Nat) :
    (fun w => w.move calls now i)^[n] w = w :=
  Function.iterate_fixed (move_answered h) n

theorem iterate_advance {s : Server} {stage : Stage} (t : Server) (next : Stage)
    (hq : stage.events now = []) (ha : s.advance now (calls i) stage = (t, next)) (n : Nat) :
    (fun w => w.move calls now i)^[n + 1] (w.reach now i s stage) =
      (fun w => w.move calls now i)^[n] (w.reach now i t next) := by
  have hstep : (w.reach now i s stage).move calls now i = w.reach now i t next := by
    rw [move_open (by rwa [reach_stage]), reach_stage]
    change (w.reach now i s stage).reach now i (s.advance now (calls i) stage).1
      (s.advance now (calls i) stage).2 = _
    rw [ha, reach_reach hq]
  rw [Function.iterate_succ_apply, hstep]

theorem iterate_last {s t : Server} {stage : Stage} {a : Act} (hq : stage.events now = [])
    (ha : s.advance now (calls i) stage = (t, .answered a)) (n : Nat) :
    (fun w => w.move calls now i)^[n + 1] (w.reach now i s stage) =
      w.reach now i t (.answered a) := by
  rw [iterate_advance t (.answered a) hq ha, iterate_answered (reach_stage ..)]

theorem iterate_issueCode (s : Server) {fresh client redirectUri : String} {subject : UserId}
    {scopes : List String} (hi : calls i = .issueCode fresh client subject redirectUri scopes) :
    (fun w => w.move calls now i)^[4] (w.reach now i s .begins) =
      w.reach now i (s.step now (calls i)).1 (.answered (s.step now (calls i)).2) := by
  have hstep : s.step now (calls i) =
      ((s.issueCode now fresh client subject redirectUri scopes).1,
        .issueCode client subject redirectUri scopes
          (s.issueCode now fresh client subject redirectUri scopes).2) := by
    rw [hi]
    rfl
  rw [hstep, Server.issueCode]
  cases hr : s.checkRedirect client redirectUri with
  | error e => exact iterate_last rfl (by rw [hi, Server.advance, hr]) 3
  | ok u =>
    rw [iterate_advance s .admitted rfl (by rw [hi, Server.advance, hr])]
    cases ht : now.plusSeconds? Server.codeTtl with
    | none => exact iterate_last rfl (by rw [hi, Server.advance, ht]) 2
    | some expiresAt =>
      rw [iterate_advance s (.offers ⟨fresh, client, subject, redirectUri, scopes, expiresAt⟩) rfl
        (by rw [hi, Server.advance, ht])]
      exact iterate_last rfl (by rw [hi, Server.advance]) 1

theorem iterate_exchange (s : Server) {fresh : Server.FreshPair} {code client secret : String}
    (hi : calls i = .exchange fresh code client secret) :
    (fun w => w.move calls now i)^[4] (w.reach now i s .begins) =
      w.reach now i (s.step now (calls i)).1 (.answered (s.step now (calls i)).2) := by
  have hstep : s.step now (calls i) = ((s.exchange now fresh code client secret).1,
      .exchange code client secret (s.exchange now fresh code client secret).2) := by
    rw [hi]
    rfl
  rw [hstep, Server.exchange]
  by_cases hauth : s.authenticates client secret = true
  · rw [if_pos hauth]
    rw [iterate_advance s .admitted rfl
      (by rw [hi, Server.advance, if_pos hauth])]
    rcases ht : s.takeCode now code client with ⟨t, f | g⟩
    · exact iterate_last rfl (by rw [hi, Server.advance, ht]) 2
    · rw [iterate_advance t (.holds g) rfl (by rw [hi, Server.advance, ht])]
      dsimp only
      cases hp : t.pairFor? now fresh g with
      | none => exact iterate_last rfl (by rw [hi, Server.advance, hp]) 1
      | some p =>
        rw [iterate_advance t (.brings p) rfl (by rw [hi, Server.advance, hp])]
        exact iterate_last rfl (by rw [hi, Server.advance]) 0
  · rw [if_neg hauth]
    exact iterate_last rfl (by rw [hi, Server.advance, if_neg hauth]) 3

/-- A call that nobody comes between does in its four steps, or less, what it
does at once. -/
theorem move_alone (h : w.stage i = .begins) :
    (fun w => w.move calls now i)^[4] w =
      w.reach now i (w.server.step now (calls i)).1
        (.answered (w.server.step now (calls i)).2) := by
  have hw : w.reach now i w.server .begins = w := by
    rw [← h]
    exact reach_same (by rw [h]; rfl)
  have halone : (fun w => w.move calls now i)^[4] (w.reach now i w.server .begins) =
      w.reach now i (w.server.step now (calls i)).1
        (.answered (w.server.step now (calls i)).2) := by
    cases hi : calls i with
    | issueCode fresh client subject redirectUri scopes =>
      rw [← hi]
      exact iterate_issueCode w.server hi
    | exchange fresh code client secret =>
      rw [← hi]
      exact iterate_exchange w.server hi
    | _ =>
      rw [← hi]
      exact iterate_last rfl (by rw [hi]; rfl) 3
  rwa [hw] at halone

end World

/-! ## One step -/

/-- The client of the call passes its check. -/
def Server.Admits (s : Server) : Call → Prop
  | .issueCode _ client _ redirectUri _ => s.checkRedirect client redirectUri = .ok ()
  | .exchange _ _ client secret => s.authenticates client secret = true
  | _ => False

/-- The call went through all of several steps. -/
def Act.grants : Act → Bool
  | issueCode _ _ _ _ (.ok _) => true
  | exchange _ _ _ (.ok _) => true
  | _ => false

/-- What a step of a call does if it does not die: the server and the instant
before it, the call with its stage before and after it, and the server after
it. A step at which a call is refused, or the only step of a call, is one of
the changes. -/
inductive Move (s : Server) (now : Instant) : Call → Stage → Stage → Server → Prop
  | enter (call : Call) : s.Admits call → Move s now call .begins .admitted s
  | prepare (g : AuthorizationCode) :
      now.plusSeconds? Server.codeTtl = some g.expiresAt →
      Move s now (.issueCode g.code g.client g.subject g.redirectUri g.scopes) .admitted
        (.offers g) s
  | publish (fresh client : String) (subject : UserId) (redirectUri : String)
    (scopes : List String) (g : AuthorizationCode) :
      Move s now (.issueCode fresh client subject redirectUri scopes) (.offers g)
        (.answered (.issueCode client subject redirectUri scopes (.ok g.code)))
        { s with codes := s.codes.insert g.code g }
  | take (fresh : Server.FreshPair) (code secret : String) (g : AuthorizationCode) :
      s.codes.get? code = some g → g.isOver now = false →
      Move s now (.exchange fresh code g.client secret) .admitted (.holds g)
        { s with codes := s.codes.erase code }
  | mint (fresh : Server.FreshPair) (code client secret : String) (g : AuthorizationCode)
    (p : TokenPair) :
      s.pairFor? now fresh g = some p →
      Move s now (.exchange fresh code client secret) (.holds g) (.brings p) s
  | grant (fresh : Server.FreshPair) (code client secret : String) (p : TokenPair) :
      Move s now (.exchange fresh code client secret) (.brings p)
        (.answered (.exchange code client secret (.ok p)))
        { s with tokens := s.tokens.store p }
  | settle (call : Call) (stage : Stage) (a : Act) (s' : Server) :
      stage = .begins ∨ stage = .admitted → a.grants = false → Change s now a s' →
      Move s now call stage (.answered a) s'

namespace Server

variable {s : Server} {now : Instant}

end Server

theorem Move.sane {s s' : Server} {now : Instant} {call : Call} {stage next : Stage}
    (hm : Move s now call stage next s') (h : s.Sane) : s'.Sane := by
  cases hm with
  | settle _ _ a _ _ _ hc => exact hc.sane h
  | _ => exact h

/-! ## Whole plays -/

variable {settings : OAuthSettings} {calls : Nat → Call}

namespace World

variable {w : World} {now : Instant} {i : Nat}

/-- A step adds to the log, and changes the stage of its own call only. -/
theorem move_eq (calls : Nat → Call) (w : World) (now : Instant) (i : Nat) :
    w.move calls now i = w ∨ ∃ s next, w.move calls now i = w.reach now i s next := by
  unfold move
  split
  · exact .inl rfl
  · exact .inr ⟨_, _, rfl⟩

end World

theorem play_cons (now : Instant) (i : Nat) (earlier : List (Instant × Nat)) :
    play settings calls ((now, i) :: earlier) = (play settings calls earlier).move calls now i :=
  rfl

/-- Each call does all its steps in turn. -/
def inTurn (order : List (Instant × Nat)) : List (Instant × Nat) :=
  order.flatMap fun q => List.replicate 4 q

theorem mem_inTurn {order : List (Instant × Nat)} {q : Instant × Nat} (h : q ∈ inTurn order) :
    q ∈ order := by
  obtain ⟨q', hq', hm⟩ := List.mem_flatMap.1 h
  exact List.eq_of_mem_replicate hm ▸ hq'

theorem begins_of_absent {schedule : List (Instant × Nat)} {i : Nat}
    (h : ∀ q ∈ schedule, q.2 ≠ i) : (play settings calls schedule).stage i = .begins := by
  induction schedule with
  | nil => rfl
  | cons q earlier ih =>
    obtain ⟨now, j⟩ := q
    have hold := ih fun q hq => h q (List.mem_cons_of_mem _ hq)
    have hij : i ≠ j := Ne.symm (h _ List.mem_cons_self)
    rw [play_cons]
    rcases World.move_eq calls (play settings calls earlier) now j with hw | ⟨s, next, hw⟩
    · rwa [hw]
    · rwa [hw, World.reach_stage_of_ne hij]

theorem play_replicate (n : Nat) (now : Instant) (i : Nat) (schedule : List (Instant × Nat)) :
    play settings calls (List.replicate n (now, i) ++ schedule) =
      (fun w => w.move calls now i)^[n] (play settings calls schedule) := by
  induction n with
  | zero => rfl
  | succ n ih =>
    rw [List.replicate_succ, List.cons_append, play_cons, ih, Function.iterate_succ_apply']

/-- Calls one after the other are a run. -/
theorem play_inTurn {order : List (Instant × Nat)} (h : (order.map Prod.snd).Nodup) :
    let w := play settings calls (inTurn order)
    let r := run settings (order.map fun q => (q.1, calls q.2))
    w.server = r.server ∧ w.log = r.log := by
  induction order with
  | nil => exact ⟨rfl, rfl⟩
  | cons q order ih =>
    obtain ⟨now, i⟩ := q
    obtain ⟨hi, hrest⟩ := List.nodup_cons.1 h
    obtain ⟨hserver, hlog⟩ := ih hrest
    have habsent : ∀ q ∈ inTurn order, q.2 ≠ i := by
      intro q hq he
      have hm : q.2 ∈ order.map Prod.snd := List.mem_map_of_mem (mem_inTurn hq)
      rw [he] at hm
      exact hi hm
    have hw : play settings calls (inTurn ((now, i) :: order)) = _ :=
      (play_replicate 4 now i (inTurn order)).trans (World.move_alone (begins_of_absent habsent))
    rw [hw, List.map_cons, run_cons, ← hserver, ← hlog]
    exact ⟨rfl, rfl⟩

/-! ## How a call came to its stage -/

/-- At this instant the call went from one stage to the next. -/
def Went (settings : OAuthSettings) (calls : Nat → Call) (schedule : List (Instant × Nat))
    (i : Nat) (now : Instant) (stage next : Stage) : Prop :=
  ∃ newer older, schedule = newer ++ (now, i) :: older ∧
    (play settings calls older).stage i = stage ∧
    (play settings calls ((now, i) :: older)).stage i = next

theorem Went.later {older : List (Instant × Nat)} {i : Nat} {now : Instant} {stage next : Stage}
    (h : Went settings calls older i now stage next) (newer : List (Instant × Nat)) :
    Went settings calls (newer ++ older) i now stage next := by
  obtain ⟨newer', older', rfl, hs, hn⟩ := h
  exact ⟨newer ++ newer', older', (List.append_assoc ..).symm, hs, hn⟩

/-- An answer stays. -/
theorem answered_later {older : List (Instant × Nat)} {i : Nat} {a : Act}
    (hi : (play settings calls older).stage i = .answered a) (newer : List (Instant × Nat)) :
    (play settings calls (newer ++ older)).stage i = .answered a := by
  induction newer with
  | nil => exact hi
  | cons q newer ih =>
    obtain ⟨now, j⟩ := q
    rw [List.cons_append, play_cons]
    by_cases hij : i = j
    · subst hij
      rw [World.move_answered ih]
      exact ih
    · rcases World.move_eq calls (play settings calls (newer ++ older)) now j with hw | ⟨s, n, hw⟩
      · rw [hw]
        exact ih
      · rw [hw, World.reach_stage_of_ne hij]
        exact ih

end Warrant.OAuth
