-- The algebra of sweeps. One sweep keeps the codes whose time is not over, as
-- they are, and counts the others. What an earlier sweep drops, a later one
-- would drop as well. So however often the task has ticked, the codes are those
-- of one sweep at its last tick.
import Warrant.Proofs.OAuth.Sweeps

namespace Warrant.OAuth

/-! ## The codes that are kept -/

/-- The codes whose time is not over. -/
def live (now : Instant) (codes : KeyMap String AuthorizationCode) :
    KeyMap String AuthorizationCode :=
  codes.filter fun _ g => !g.isOver now

/-- The codes whose time is over. -/
def expired (now : Instant) (codes : KeyMap String AuthorizationCode) :
    KeyMap String AuthorizationCode :=
  codes.filter fun _ g => g.isOver now

variable {codes : KeyMap String AuthorizationCode} {now t u : Instant}

theorem get?_live {code : String} {g : AuthorizationCode} :
    (live now codes).get? code = some g ↔ codes.get? code = some g ∧ now ≤ g.expiresAt := by
  unfold live AuthorizationCode.isOver
  rw [KeyMap.get?_filter_eq_some_iff, Bool.not_eq_true', Instant.isAfter_eq_false_iff]

theorem size_live_add_size_expired (now : Instant) (codes : KeyMap String AuthorizationCode) :
    (live now codes).size + (expired now codes).size = codes.size := by
  have h := codes.size_filter_add_size_filter_not fun _ g => !g.isOver now
  simpa [live, expired] using h

/-- What is not kept is dropped. -/
theorem expired_eq (now : Instant) (codes : KeyMap String AuthorizationCode) :
    expired now codes = codes.filter fun code _ => !(live now codes).contains code := by
  apply KeyMap.ext
  intro code
  unfold expired KeyMap.contains live
  rw [KeyMap.get?_filter, KeyMap.get?_filter, KeyMap.get?_filter]
  cases codes.get? code with
  | none => rfl
  | some g => cases h : g.isOver now <;> simp [Option.filter_some, h]

/-- What a later sweep keeps, an earlier one kept. -/
theorem live_live (h : t ≤ u) : live u (live t codes) = live u codes := by
  apply KeyMap.ext
  intro code
  apply Option.ext
  intro g
  simp only [get?_live]
  constructor
  · rintro ⟨⟨hg, _⟩, hu⟩
    exact ⟨hg, hu⟩
  · rintro ⟨hg, hu⟩
    exact ⟨⟨hg, le_trans h hu⟩, hu⟩

/-- What was dropped early is not dropped again. -/
theorem size_expired_add (h : t ≤ u) :
    (expired t codes).size + (expired u (live t codes)).size = (expired u codes).size := by
  have ht := size_live_add_size_expired t codes
  have hu := size_live_add_size_expired u codes
  have hboth := size_live_add_size_expired u (live t codes)
  rw [live_live h] at hboth
  omega

/-! ## One sweep, and two -/

namespace Server

variable {s : Server}

theorem purge_eq (hopen : s.codesPoisoned = false) (hnow : now.OnClock) :
    s.purge now = (s.withCodes (live now s.codes), .ok (expired now s.codes).size) := by
  have hsize := size_live_add_size_expired now s.codes
  have hcount : s.codes.size - (live now s.codes).size = (expired now s.codes).size := by omega
  rw [← hcount]
  exact purge_on_clock hopen hnow

/-- A sweep drops what an earlier one would have dropped. -/
theorem purge_purge (hopen : s.codesPoisoned = false) (ht : t.OnClock) (hu : u.OnClock)
    (h : t ≤ u) : ((s.purge t).1.purge u).1 = (s.purge u).1 := by
  have hopen' : (s.withCodes (live t s.codes)).codesPoisoned = false := hopen
  rw [purge_eq hopen ht, purge_eq hopen hu, purge_eq hopen' hu, codes_withCodes, live_live h]
  rfl

theorem purge_count (hopen : s.codesPoisoned = false) (ht : t.OnClock) (hu : u.OnClock)
    (h : t ≤ u) : ∃ m n, (s.purge t).2 = .ok m ∧ ((s.purge t).1.purge u).2 = .ok n ∧
      (s.purge u).2 = .ok (m + n) := by
  have hopen' : (s.withCodes (live t s.codes)).codesPoisoned = false := hopen
  rw [purge_eq hopen ht, purge_eq hopen hu, purge_eq hopen' hu, codes_withCodes]
  exact ⟨_, _, rfl, rfl, congrArg Except.ok (size_expired_add h).symm⟩

end Server

/-! ## The ticks -/

namespace Sweep

variable {s : Server} {wall : Nat → Instant}

theorem run_concat (s : Server) (wall : Nat → Instant) (ticks : List Nat) (t : Nat) :
    run s wall (ticks ++ [t]) = ((run s wall ticks).purge (wall t)).1 := by
  simp [run]

theorem mem_ticks {start stop t : Nat} :
    t ∈ ticks start stop ↔ start ≤ t ∧ t < stop ∧ interval ∣ t := by
  unfold ticks interval
  simp only [List.mem_map, List.mem_range]
  constructor
  · rintro ⟨i, hi, rfl⟩
    omega
  · rintro ⟨hstart, hstop, k, rfl⟩
    exact ⟨k - (start + 60 - 1) / 60, by omega, by omega⟩

theorem pairwise_ticks (start stop : Nat) : (ticks start stop).Pairwise (· < ·) := by
  unfold ticks interval
  rw [List.pairwise_map]
  apply List.pairwise_lt_range.imp
  intro i j hij
  omega

theorem exists_last {stop : Nat} (h : 0 < stop) :
    ∃ earlier last, ticks 0 stop = earlier ++ [last] := by
  have hzero : 0 ∈ ticks 0 stop := mem_ticks.2 ⟨le_refl 0, h, Nat.dvd_zero _⟩
  rcases List.eq_nil_or_concat (ticks 0 stop) with hnil | ⟨earlier, last, hlast⟩
  · rw [hnil] at hzero
    cases hzero
  · exact ⟨earlier, last, by simpa using hlast⟩

/-- After some ticks the server is as after one sweep at the last of them. -/
theorem run_eq_purge (hopen : s.codesPoisoned = false) (hwall : Monotone wall) {ticks : List Nat}
    {last : Nat} (horder : (ticks ++ [last]).Pairwise (· < ·))
    (hclock : ∀ t ∈ ticks ++ [last], (wall t).OnClock) :
    run s wall (ticks ++ [last]) = (s.purge (wall last)).1 := by
  induction ticks using List.reverseRecOn generalizing last with
  | nil => rfl
  | append_singleton ticks t ih =>
    obtain ⟨hbefore, _, hlt⟩ := List.pairwise_append.1 horder
    have ht : t ∈ ticks ++ [t] := by simp
    have hle : wall t ≤ wall last := hwall (hlt t ht last List.mem_cons_self).le
    rw [run_concat, ih hbefore fun t' ht' => hclock t' (List.mem_append_left _ ht')]
    exact Server.purge_purge hopen (hclock t (List.mem_append_left _ ht)) (hclock last (by simp)) hle

end Sweep

/-! ## The law -/

/-- A sweep keeps the codes whose time is not over, as they are, and counts those
that are no longer there. Nothing else changes. -/
structure Purges (s : Server) (now : Instant) (s' : Server) (n : Nat) : Prop where
  kept : ∀ code g, s'.codes.get? code = some g ↔ s.codes.get? code = some g ∧ now ≤ g.expiresAt
  dropped : n = (s.codes.filter fun code _ => !s'.codes.contains code).size
  counted : s'.codes.size + n = s.codes.size
  others : s' = { s with codes := s'.codes }

theorem Server.purges {s : Server} (hopen : s.codesPoisoned = false) (hnow : now.OnClock) :
    ∃ s' n, s.purge now = (s', .ok n) ∧ Purges s now s' n := by
  refine ⟨_, _, purge_eq hopen hnow, ?_⟩
  refine ⟨fun code g => get?_live, ?_, size_live_add_size_expired now s.codes, rfl⟩
  rw [codes_withCodes, expired_eq]

/-- On a server whose codes can be reached, at instants that a clock can show, a
sweep keeps the codes whose time is not over and counts the others. Of two
sweeps the later one leaves what it would have left alone, and alone it would
have counted for both. The task ticks at each multiple of 60 seconds. If the
other clock does not go back while the task runs, as one that goes on from any
instant, then its codes are those of one sweep at the last tick, and no code is
held whose time was over by then. -/
theorem the_last_sweep_does_the_work_of_all {s : Server} (hopen : s.codesPoisoned = false) :
    (∀ now : Instant, now.OnClock → ∃ s' n, s.purge now = (s', .ok n) ∧ Purges s now s' n) ∧
    (∀ t u : Instant, t.OnClock → u.OnClock → t ≤ u →
      ((s.purge t).1.purge u).1 = (s.purge u).1 ∧
      ∃ m n, (s.purge t).2 = .ok m ∧ ((s.purge t).1.purge u).2 = .ok n ∧
        (s.purge u).2 = .ok (m + n)) ∧
    (∀ stop t, t ∈ Sweep.ticks 0 stop ↔ t < stop ∧ 60 ∣ t) ∧
    ∀ (wall : Nat → Instant) (stop : Nat), Monotone wall →
      (∀ t ∈ Sweep.ticks 0 stop, (wall t).OnClock) → 0 < stop →
      ∃ last ∈ Sweep.ticks 0 stop, (∀ t ∈ Sweep.ticks 0 stop, t ≤ last) ∧
        Sweep.run s wall (Sweep.ticks 0 stop) = (s.purge (wall last)).1 ∧
        ∀ code g, (Sweep.run s wall (Sweep.ticks 0 stop)).codes.get? code = some g →
          wall last ≤ g.expiresAt := by
  refine ⟨fun now hnow => Server.purges hopen hnow, ?_, ?_, ?_⟩
  · intro t u ht hu h
    exact ⟨Server.purge_purge hopen ht hu h, Server.purge_count hopen ht hu h⟩
  · intro stop t
    simp [Sweep.mem_ticks, Sweep.interval]
  · intro wall stop hwall hclock hstop
    obtain ⟨earlier, last, hticks⟩ := Sweep.exists_last hstop
    have horder := Sweep.pairwise_ticks 0 stop
    rw [hticks] at hclock horder ⊢
    have hlast : last ∈ earlier ++ [last] := by simp
    have hrun := Sweep.run_eq_purge hopen hwall horder hclock
    refine ⟨last, hlast, ?_, hrun, ?_⟩
    · intro t ht
      rcases List.mem_append.1 ht with ht | ht
      · exact ((List.pairwise_append.1 horder).2.2 t ht last List.mem_cons_self).le
      · exact (List.mem_singleton.1 ht).le
    · intro code g hg
      rw [hrun, Server.purge_eq hopen (hclock last hlast)] at hg
      exact (get?_live.1 hg).2

/-- Two codes, one that counts for half a minute and one that counts for a whole
one. -/
def cloakroom : Server where
  settings := {}
  clients := .empty
  codes := .ofList
    [("brief", ⟨"brief", "app", 7, "/back", [], ⟨1700000030, 0⟩⟩),
      ("long", ⟨"long", "app", 7, "/back", [], ⟨1700000060, 0⟩⟩)]
  tokens := .empty
  codesPoisoned := false
  tokensPoisoned := false

/-- The task ticks at once and after a minute. The second tick is the last
instant of the long code, so this code stays. -/
theorem the_cloakroom_keeps_the_long_code :
    let wall : Nat → Instant := Instant.later ⟨1700000000, 0⟩
    cloakroom.codesPoisoned = false ∧ Monotone wall ∧
      (∀ t ∈ Sweep.ticks 0 61, (wall t).OnClock) ∧ 60 ∈ Sweep.ticks 0 61 ∧
      ((cloakroom.purge (wall 0)).1.purge (wall 60)).1 = (cloakroom.purge (wall 60)).1 ∧
      (Sweep.run cloakroom wall (Sweep.ticks 0 61)).codes.get? "brief" = none ∧
      (Sweep.run cloakroom wall (Sweep.ticks 0 61)).codes.get? "long" =
        some ⟨"long", "app", 7, "/back", [], ⟨1700000060, 0⟩⟩ := by
  intro wall
  obtain ⟨hsweep, htwo, hticks, htask⟩ :=
    the_last_sweep_does_the_work_of_all (rfl : cloakroom.codesPoisoned = false)
  have hwall : Monotone wall := Instant.monotone_later _
  have hclock : ∀ t ∈ Sweep.ticks 0 61, (wall t).OnClock := by decide
  have hminute : 60 ∈ Sweep.ticks 0 61 := (hticks 61 60).2 (by decide)
  obtain ⟨last, hlast, hmax, hrun, hheld⟩ := htask wall 61 hwall hclock (by decide)
  have hsixty : last = 60 := by
    have hbound := ((hticks 61 last).1 hlast).1
    have hsixtyLe := hmax 60 hminute
    omega
  subst hsixty
  obtain ⟨s', n, hpurge, hs'⟩ := hsweep (wall 60) (hclock 60 hminute)
  refine ⟨rfl, hwall, hclock, hminute, (htwo (wall 0) (wall 60) (by decide) (by decide) ?_).1, ?_,
    ?_⟩
  · exact hwall (by decide)
  · rw [Option.eq_none_iff_forall_not_mem]
    intro g hg
    have hle : wall 60 ≤ g.expiresAt := hheld "brief" g hg
    rw [hrun, hpurge] at hg
    have hbrief : some ⟨"brief", "app", 7, "/back", [], ⟨1700000030, 0⟩⟩ = some g :=
      ((hs'.kept "brief" g).1 hg).1
    cases hbrief
    exact absurd hle (by decide)
  · rw [hrun, hpurge]
    exact (hs'.kept "long" _).2 ⟨rfl, le_refl (wall 60)⟩

end Warrant.OAuth
