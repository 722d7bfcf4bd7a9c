import MediasoupCpp.Lib.Run
import Mathlib.Data.Int.Notation
import Mathlib.Data.List.Basic
import Mathlib.Data.List.Induction

/-!
# Workers that are started again

Main result: `respawns_in_window`.

Source: `src/WorkerThread.cpp`.
-/

namespace MediasoupCpp

open List Runs

/-- Ten seconds, in nanoseconds. -/
def respawnWindow : ℤ := 10000000000

structure Respawns where
  respawnTimes : List ℤ := []
  respawned : List ℤ := []

/-- A worker dies; the flag says whether another one could be started. -/
def onWorkerDied (s : Respawns) (death : ℤ × Bool) : Respawns :=
  let now := death.1
  let respawnTimes := (s.respawnTimes ++ [now]).dropWhile fun time => respawnWindow < now - time
  if 3 < respawnTimes.length then { s with respawnTimes }
  else { respawnTimes, respawned := if death.2 then s.respawned ++ [now] else s.respawned }

theorem dropWhile_eq_filter {times : List ℤ} (h : times.Pairwise (· ≤ ·)) (now : ℤ) :
    times.dropWhile (fun time => respawnWindow < now - time) =
      times.filter (now - · ≤ respawnWindow) := by
  induction times with
  | nil => rfl
  | cons time times ih =>
    obtain ⟨hle, h⟩ := pairwise_cons.mp h
    by_cases hold : respawnWindow < now - time
    · rw [dropWhile_cons_of_pos (by simp only [decide_eq_true_eq]; omega),
        filter_cons_of_neg (by simp only [decide_eq_true_eq]; omega), ih h]
    · rw [dropWhile_cons_of_neg (by simp only [decide_eq_true_eq]; omega), filter_eq_self.mpr]
      simp only [mem_cons, forall_eq_or_imp, decide_eq_true_eq]
      refine ⟨by omega, fun time' htime => ?_⟩
      have := hle time' htime
      omega

/-- After deaths at some times, those that the last one still sees are recorded. -/
structure Respawns.Inv (times : List ℤ) (s : Respawns) : Prop where
  recorded : s.respawnTimes = times.filter (times.getLastD 0 - · ≤ respawnWindow)
  respawned : s.respawned <+ times
  window : ∀ start,
    (s.respawned.filter fun time => start ≤ time ∧ time ≤ start + respawnWindow).length ≤ 3

theorem onWorkerDied_cases (s : Respawns) (death : ℤ × Bool) : let s' := onWorkerDied s death
    s'.respawnTimes =
        (s.respawnTimes ++ [death.1]).dropWhile (fun time => respawnWindow < death.1 - time) ∧
      (s'.respawned = s.respawned ∨
        s'.respawned = s.respawned ++ [death.1] ∧ s'.respawnTimes.length ≤ 3) := by
  unfold onWorkerDied
  dsimp only
  split_ifs with hlim hst
  · exact ⟨rfl, .inl rfl⟩
  · exact ⟨rfl, .inr ⟨rfl, Nat.le_of_not_lt hlim⟩⟩
  · exact ⟨rfl, .inl rfl⟩

theorem Respawns.Inv.onWorkerDied {s : Respawns} {times : List ℤ} {death : ℤ × Bool}
    (h : s.Inv times) (hclk : (times ++ [death.1]).Pairwise (· ≤ ·)) :
    (onWorkerDied s death).Inv (times ++ [death.1]) := by
  obtain ⟨htimes, hcs⟩ := onWorkerDied_cases s death
  generalize MediasoupCpp.onWorkerDied s death = s' at htimes hcs ⊢
  have hrec : s'.respawnTimes = (times ++ [death.1]).filter (death.1 - · ≤ respawnWindow) := by
    rw [htimes, h.recorded, dropWhile_eq_filter (hclk.sublist (filter_sublist.append_right _)),
      filter_append, filter_append, filter_filter]
    congr 1
    refine filter_congr fun time htime => ?_
    have hlast : times.getLastD 0 ≤ death.1 := by
      rw [getLastD_eq_getLast?, getLast?_eq_some_getLast (ne_nil_of_mem htime)]
      exact (pairwise_append.mp hclk).2.2 _ (getLast_mem _) _ mem_cons_self
    simp only [Bool.and_eq_decide, decide_eq_true_eq, decide_eq_decide]
    omega
  have hresp : s'.respawned <+ times ++ [death.1] := by
    obtain heq | ⟨heq, -⟩ := hcs
    · exact heq ▸ h.respawned.trans (sublist_append_left ..)
    · exact heq ▸ h.respawned.append_right _
  refine ⟨by rwa [getLastD_concat], hresp, fun start => ?_⟩
  obtain heq | ⟨heq, hlim⟩ := hcs
  · exact heq ▸ h.window start
  by_cases hin : death.1 ≤ start + respawnWindow
  · -- all respawns of the window are recorded
    refine Nat.le_trans (Sublist.length_le ?_) hlim
    rw [hrec]
    refine (hresp.filter _).trans (monotone_filter_right _ fun time htime => ?_)
    simp only [Bool.decide_and, Bool.and_eq_true, decide_eq_true_eq] at htime ⊢
    omega
  · rw [heq, filter_append, filter_cons_of_neg (by simp [hin]), filter_nil, append_nil]
    exact h.window start

/-- **Any ten seconds see at most three respawns**, and what is recorded is not older. -/
theorem respawns_in_window (deaths : List (ℤ × Bool))
    (hclk : (deaths.map Prod.fst).Pairwise (· ≤ ·)) :
    (∀ start, ((runFrom onWorkerDied {} deaths).respawned.filter fun time =>
      start ≤ time ∧ time ≤ start + respawnWindow).length ≤ 3) ∧
    ∀ last ∈ (deaths.map Prod.fst).getLast?, ∀ time ∈ (runFrom onWorkerDied {} deaths).respawnTimes,
      last - time ≤ respawnWindow := by
  have hinv : (runFrom onWorkerDied {} deaths).Inv (deaths.map Prod.fst) := by
    induction deaths using reverseRecOn with
    | nil => exact ⟨rfl, .slnil, by simp⟩
    | append_singleton deaths death ih =>
      rw [runFrom_concat, map_append]
      rw [map_append] at hclk
      exact (ih (pairwise_append.mp hclk).1).onWorkerDied hclk
  refine ⟨hinv.window, fun last hlast time htime => ?_⟩
  rw [hinv.recorded, getLastD_eq_getLast?, Option.mem_def.mp hlast] at htime
  exact of_decide_eq_true (mem_filter.mp htime).2

theorem respawns_in_window_four :
    let s := runFrom onWorkerDied {} [(0, true), (1, true), (2, true), (3, true)]
    s.respawned = [0, 1, 2] ∧ ∀ time ∈ s.respawnTimes, 3 - time ≤ respawnWindow :=
  ⟨by decide, (respawns_in_window [(0, true), (1, true), (2, true), (3, true)] (by decide)).2 3 rfl⟩

end MediasoupCpp
