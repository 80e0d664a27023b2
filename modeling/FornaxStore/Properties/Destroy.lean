import FornaxStore.PodCgroup

/-!
# `Destroy` は process を全部 kill してから cgroup を消す

`tryKillingCgroupProcesses` は `CgroupManager.Pids` の pid を五回まで繰り返して kill する。kill に
成功した pid（すでに終わっていたものも含む）は `removed` に入り、後では飛ばされる。一回の試みで
誤りが一つも無ければ終わる。kill の答えは `ProcHost.kill` が呼び出しの回数ごとに決めるので、
以下はどの process の振る舞いの下でも成り立つ。

* `killPass_complete`・`killPass_failed` — 一回の試みで誤りが無いのは、pid が全部 `removed` にある
  ときである（後ろ向きには pid に重複が無いことが要る）
* `KillInv` — `removed` はちょうど kill に成功した pid で、成功した pid は二度と kill されない。
  一回の kill（`KillInv.ok`・`KillInv.error`）、一回の試み、試みの繰り返しがこれを保つ
* `destroy_ok_iff` — pid に重複が無ければ、`Destroy` が通るのは、どの pid の kill も成功し、
  `CgroupManager.Destroy` が通ったときに限る
* `destroy_no_rekill` — kill に成功した pid を再び kill することはなく、kill は高々 pid の数の五倍
-/

namespace FornaxStore

namespace Cm

/-! ## 一回の試みの展開 -/

section

variable (host : ProcHost) {pid : Int} {rest removed : List Int} {errlist : List String}
  {log : KillLog}

theorem killPass_cons_mem (h : pid ∈ removed) :
    killPass host (pid :: rest) removed errlist log = killPass host rest removed errlist log := by
  simp [killPass, h]

theorem killPass_cons_error (h : pid ∉ removed) {err : String}
    (hk : killOnePid host log.length pid = .error err) :
    killPass host (pid :: rest) removed errlist log =
      killPass host rest removed (errlist ++ [err]) (log ++ [(pid, .error err)]) := by
  simp [killPass, h, hk]

theorem killPass_cons_ok (h : pid ∉ removed) (hk : killOnePid host log.length pid = .ok ()) :
    killPass host (pid :: rest) removed errlist log =
      killPass host rest (removed ++ [pid]) errlist (log ++ [(pid, .ok ())]) := by
  simp [killPass, h, hk]

end

/-! ## kill の記録 -/

/-- kill の記録と `removed` の関係：`removed` の pid はどれも記録に成功した kill があり、成功した
kill の pid はどれも `removed` にあり、成功した kill の後に同じ pid を kill していない。 -/
structure KillInv (removed : List Int) (log : KillLog) : Prop where
  killed : ∀ p ∈ removed, (p, .ok ()) ∈ log
  removed : ∀ p, (p, .ok ()) ∈ log → p ∈ removed
  noRekill : log.Pairwise fun a b => a.2 = .ok () → b.1 ≠ a.1

namespace KillInv

variable {removed : List Int} {log : KillLog} {pid : Int}

theorem nil : KillInv [] [] := ⟨by simp, by simp, .nil⟩

/-- `removed` にない pid を kill しても、それより前の成功した kill の pid とは違う。 -/
theorem noRekill_append (h : KillInv removed log) (hp : pid ∉ removed) (r : Except String Unit) :
    (log ++ [(pid, r)]).Pairwise fun a b => a.2 = .ok () → b.1 ≠ a.1 := by
  refine List.pairwise_append.mpr ⟨h.noRekill, List.pairwise_singleton _ _, ?_⟩
  rintro ⟨q, _⟩ hq b hb rfl he
  obtain rfl := List.mem_singleton.mp hb
  simp only at he
  exact hp (he ▸ h.removed q hq)

theorem ok (h : KillInv removed log) (hp : pid ∉ removed) :
    KillInv (removed ++ [pid]) (log ++ [(pid, .ok ())]) where
  killed p hp' := by
    rcases List.mem_append.mp hp' with hp' | hp'
    · exact List.mem_append_left _ (h.killed p hp')
    · simp [List.mem_singleton.mp hp']
  removed p hp' := by
    rcases List.mem_append.mp hp' with hp' | hp'
    · exact List.mem_append_left _ (h.removed p hp')
    · simp_all
  noRekill := h.noRekill_append hp _

theorem error (h : KillInv removed log) (hp : pid ∉ removed) (err : String) :
    KillInv removed (log ++ [(pid, .error err)]) where
  killed p hp' := List.mem_append_left _ (h.killed p hp')
  removed p hp' := by
    rcases List.mem_append.mp hp' with hp' | hp'
    · exact h.removed p hp'
    · simp at hp'
  noRekill := h.noRekill_append hp _

end KillInv

/-! ## 一回の試み -/

section

variable (host : ProcHost) {pids removed removed' : List Int} {errlist errlist' : List String}
  {log log' : KillLog}

/-- 一回の試みは `errlist` と記録の後ろに足すだけで、記録は高々 pid の数だけ伸びる。`removed` は
減らず、増えるのは `pids` の pid だけである。 -/
theorem killPass_frame (h : killPass host pids removed errlist log = (removed', errlist', log')) :
    (∃ es, errlist' = errlist ++ es) ∧
      (∃ new, log' = log ++ new ∧ new.length ≤ pids.length ∧ ∀ e ∈ new, e.1 ∈ pids) ∧
      (∀ p ∈ removed, p ∈ removed') ∧ (∀ p ∈ removed', p ∈ removed ∨ p ∈ pids) := by
  induction pids, removed, errlist, log using killPass.induct host with
  | case1 removed errlist log =>
    cases h
    exact ⟨⟨[], by simp⟩, ⟨[], by simp, by simp, by simp⟩, fun _ hp => hp, fun _ hp => .inl hp⟩
  | case2 pid rest removed errlist log hmem ih =>
    rw [killPass_cons_mem host hmem] at h
    obtain ⟨hes, ⟨new, hnew, hlen, hpid⟩, hmono, hsub⟩ := ih h
    exact ⟨hes, ⟨new, hnew, by simp; omega, fun e he => List.mem_cons_of_mem _ (hpid e he)⟩, hmono,
      fun p hp => (hsub p hp).imp id (List.mem_cons_of_mem _)⟩
  | case3 pid rest removed errlist log hmem err hk ih =>
    rw [killPass_cons_error host hmem hk] at h
    obtain ⟨⟨es, hes⟩, ⟨new, hnew, hlen, hpid⟩, hmono, hsub⟩ := ih h
    exact ⟨⟨err :: es, by simp [hes]⟩, ⟨(pid, .error err) :: new, by simp [hnew], by simp; omega,
      by simpa using fun e he => List.mem_cons_of_mem _ (hpid e he)⟩, hmono,
      fun p hp => (hsub p hp).imp id (List.mem_cons_of_mem _)⟩
  | case4 pid rest removed errlist log hmem hk ih =>
    rw [killPass_cons_ok host hmem hk] at h
    obtain ⟨hes, ⟨new, hnew, hlen, hpid⟩, hmono, hsub⟩ := ih h
    exact ⟨hes, ⟨(pid, .ok ()) :: new, by simp [hnew], by simp; omega,
      by simpa using fun e he => List.mem_cons_of_mem _ (hpid e he)⟩,
      fun p hp => hmono p (List.mem_append_left _ hp),
      fun p hp => by simpa [or_assoc] using hsub p hp⟩

/-- 一回の試みは記録の不変条件を保つ。 -/
theorem killPass_inv (h : killPass host pids removed errlist log = (removed', errlist', log'))
    (hi : KillInv removed log) : KillInv removed' log' := by
  induction pids, removed, errlist, log using killPass.induct host with
  | case1 => cases h; exact hi
  | case2 pid rest removed errlist log hmem ih =>
    exact ih (by rwa [killPass_cons_mem host hmem] at h) hi
  | case3 pid rest removed errlist log hmem err hk ih =>
    exact ih (by rwa [killPass_cons_error host hmem hk] at h) (hi.error hmem err)
  | case4 pid rest removed errlist log hmem hk ih =>
    exact ih (by rwa [killPass_cons_ok host hmem hk] at h) (hi.ok hmem)

/-- 誤りが足されなかった試みの後では、`pids` の pid は全部 `removed` にある。 -/
theorem killPass_complete (h : killPass host pids removed errlist log = (removed', errlist', log'))
    (he : errlist' = errlist) : ∀ p ∈ pids, p ∈ removed' := by
  induction pids, removed, errlist, log using killPass.induct host with
  | case1 => simp
  | case2 pid rest removed errlist log hmem ih =>
    rw [killPass_cons_mem host hmem] at h
    intro p hp
    rcases List.mem_cons.mp hp with rfl | hp
    · exact (killPass_frame host h).2.2.1 p hmem
    · exact ih h he p hp
  | case3 pid rest removed errlist log hmem err hk ih =>
    rw [killPass_cons_error host hmem hk] at h
    obtain ⟨es, hes⟩ := (killPass_frame host h).1
    have := congrArg List.length (hes.symm.trans he)
    simp at this
  | case4 pid rest removed errlist log hmem hk ih =>
    rw [killPass_cons_ok host hmem hk] at h
    intro p hp
    rcases List.mem_cons.mp hp with rfl | hp
    · exact (killPass_frame host h).2.2.1 p (List.mem_append_right _ (List.mem_singleton_self _))
    · exact ih h he p hp

/-- pid に重複が無ければ、誤りが足された試みの後には `removed` にない pid が残っている。 -/
theorem killPass_failed (h : killPass host pids removed errlist log = (removed', errlist', log'))
    (hnd : pids.Nodup) (he : errlist' ≠ errlist) : ∃ p ∈ pids, p ∉ removed' := by
  induction pids, removed, errlist, log using killPass.induct host with
  | case1 => cases h; exact absurd rfl he
  | case2 pid rest removed errlist log hmem ih =>
    rw [killPass_cons_mem host hmem] at h
    obtain ⟨p, hp, hp'⟩ := ih h (List.nodup_cons.mp hnd).2 he
    exact ⟨p, List.mem_cons_of_mem _ hp, hp'⟩
  | case3 pid rest removed errlist log hmem err hk ih =>
    -- 失敗した `pid` は `rest` に無いので、この試みの残りで `removed` に入らない
    rw [killPass_cons_error host hmem hk] at h
    refine ⟨pid, List.mem_cons_self _ _, fun hp => ?_⟩
    rcases (killPass_frame host h).2.2.2 pid hp with hp | hp
    · exact hmem hp
    · exact (List.nodup_cons.mp hnd).1 hp
  | case4 pid rest removed errlist log hmem hk ih =>
    rw [killPass_cons_ok host hmem hk] at h
    obtain ⟨p, hp, hp'⟩ := ih h (List.nodup_cons.mp hnd).2 he
    exact ⟨p, List.mem_cons_of_mem _ hp, hp'⟩

end

/-! ## 試みの繰り返し -/

section

variable (host : ProcHost) {pidsToKill : List Int} {attempts : Nat} {removed : List Int}
  {errlist : List String} {log log' : KillLog} {r : Except (List String) Unit}

/-- 繰り返しの結果：通れば、最後の試みの後で pid は全部 `removed` にあり、通らなければ（pid に重複が
無いとき）`removed` にない pid が残る。どちらでも記録の不変条件は保たれ、記録は一回の試みにつき
高々 pid の数だけ伸びる。 -/
theorem killAttempts_spec (h : killAttempts host pidsToKill attempts removed errlist log = (r, log'))
    (hi : KillInv removed log)
    (hfail : attempts = 0 → pidsToKill.Nodup → ∃ p ∈ pidsToKill, p ∉ removed) :
    ∃ removed', KillInv removed' log' ∧
      (∃ new, log' = log ++ new ∧ new.length ≤ attempts * pidsToKill.length ∧
        ∀ e ∈ new, e.1 ∈ pidsToKill) ∧
      (r = .ok () → ∀ p ∈ pidsToKill, p ∈ removed') ∧
      (r ≠ .ok () → pidsToKill.Nodup → ∃ p ∈ pidsToKill, p ∉ removed') := by
  induction attempts, removed, errlist, log using killAttempts.induct host pidsToKill with
  | case1 removed errlist log =>
    simp only [killAttempts, Prod.mk.injEq] at h
    obtain ⟨rfl, rfl⟩ := h
    refine ⟨removed, hi, ⟨[], by simp, by simp, by simp⟩, fun hr => ?_, fun _ hnd => hfail rfl hnd⟩
    cases hr
  | case2 attempts removed errlist log removed₁ log₁ hpass =>
    simp only [killAttempts, hpass, if_true] at h
    cases h
    obtain ⟨-, ⟨new, rfl, hlen, hpid⟩, -, -⟩ := killPass_frame host hpass
    exact ⟨removed₁, killPass_inv host hpass hi, ⟨new, rfl, by rw [Nat.succ_mul]; omega, hpid⟩,
      fun _ => killPass_complete host hpass rfl, fun hr => absurd rfl hr⟩
  | case3 attempts removed errlist log removed₁ errlist₁ log₁ hpass hne₁ ih =>
    simp only [killAttempts, hpass, hne₁, if_false] at h
    obtain ⟨-, ⟨new, rfl, hlen, hpid⟩, -, -⟩ := killPass_frame host hpass
    obtain ⟨removed', hi', ⟨new', rfl, hlen', hpid'⟩, hok, herr⟩ :=
      ih h (killPass_inv host hpass hi) fun _ hnd => killPass_failed host hpass hnd hne₁
    exact ⟨removed', hi', ⟨new ++ new', by simp, by simp [Nat.succ_mul]; omega,
      fun e he => (List.mem_append.mp he).elim (hpid e) (hpid' e)⟩, hok, herr⟩

end

/-! ## Destroy -/

section

variable (host : ProcHost) (podCgroup : List String)

/-- `tryKillingCgroupProcesses` の結果：記録の不変条件が成り立ち、kill したのは `Pids` の pid だけで、
その回数は pid の数の五倍以下である。通れば pid は全部 kill に成功している。通らなければ（pid に
重複が無いとき）kill に成功していない pid が残る。 -/
theorem tryKillingCgroupProcesses_spec :
    ∃ removed, KillInv removed (tryKillingCgroupProcesses host podCgroup []).2 ∧
      (tryKillingCgroupProcesses host podCgroup []).2.length ≤ 5 * (host.pids podCgroup).length ∧
      (∀ e ∈ (tryKillingCgroupProcesses host podCgroup []).2, e.1 ∈ host.pids podCgroup) ∧
      ((tryKillingCgroupProcesses host podCgroup []).1 = .ok () →
        ∀ p ∈ host.pids podCgroup, p ∈ removed) ∧
      ((tryKillingCgroupProcesses host podCgroup []).1 ≠ .ok () → (host.pids podCgroup).Nodup →
        ∃ p ∈ host.pids podCgroup, p ∉ removed) := by
  unfold tryKillingCgroupProcesses
  dsimp only
  split
  · next h => exact ⟨[], .nil, by simp, by simp, fun _ => by simp [h], fun hr => absurd rfl hr⟩
  · rcases hr : killAttempts host (host.pids podCgroup) 5 [] [] [] with ⟨r, log⟩
    obtain ⟨removed, hi, ⟨new, rfl, hlen, hpid⟩, hok, herr⟩ :=
      killAttempts_spec host hr .nil (fun h => absurd h (by decide))
    exact ⟨removed, hi, by simpa using hlen, by simpa using hpid, hok, herr⟩

/-- pid に重複が無ければ、`Destroy` が通るのは、cgroup の pid がどれも kill に成功し（すでに
終わっていたものも含む）、`CgroupManager.Destroy` が通ったときに限る。 -/
theorem destroy_ok_iff (hnd : (host.pids podCgroup).Nodup) :
    (destroy host podCgroup).1 = .ok () ↔
      (∀ p ∈ host.pids podCgroup, (p, .ok ()) ∈ (destroy host podCgroup).2) ∧
        host.destroy podCgroup = .ok () := by
  obtain ⟨removed, hi, -, -, hok, herr⟩ := tryKillingCgroupProcesses_spec host podCgroup
  unfold destroy
  rcases ht : tryKillingCgroupProcesses host podCgroup [] with ⟨_ | u, log⟩ <;>
    simp only [ht] at hi hok herr
  · -- kill が通らなかった：成功していない pid が残る
    obtain ⟨p, hp, hp'⟩ := herr (by simp) hnd
    exact iff_of_false (by simp) fun ⟨hall, _⟩ => hp' (hi.removed p (hall p hp))
  · -- kill が通った：`CgroupManager.Destroy` の答えで決まる
    have hall : ∀ p ∈ host.pids podCgroup, (p, .ok ()) ∈ log := fun p hp =>
      hi.killed p (hok trivial p hp)
    cases host.destroy podCgroup
    · simp
    · simpa using hall

/-- `[10, 11]` の cgroup で、一回目の kill だけが失敗する host。二回目の試みで `10` を kill し直す。 -/
theorem destroy_ok_iff_retry :
    ∃ host : ProcHost, host = ⟨fun _ => [10, 11], fun _ => .ok (),
        fun n _ => if n = 0 then .error ⟨false, "operation not permitted"⟩ else .ok ()⟩ ∧
      (host.pids ["kubepods", "pod1"]).Nodup ∧
      ((destroy host ["kubepods", "pod1"]).1 = .ok () ↔
        (∀ p ∈ host.pids ["kubepods", "pod1"], (p, .ok ()) ∈ (destroy host ["kubepods", "pod1"]).2) ∧
          host.destroy ["kubepods", "pod1"] = .ok ()) :=
  have hnd : [(10 : Int), 11].Nodup := by decide
  ⟨_, rfl, hnd, destroy_ok_iff _ _ hnd⟩

/-- どの host でも、`Destroy` は `Pids` が返した pid だけを kill し、kill に成功した pid を再び kill
することはなく、kill するのは高々 pid の数の五倍である。 -/
theorem destroy_no_rekill :
    (∀ e ∈ (destroy host podCgroup).2, e.1 ∈ host.pids podCgroup) ∧
      ((destroy host podCgroup).2.Pairwise fun a b => a.2 = .ok () → b.1 ≠ a.1) ∧
      (destroy host podCgroup).2.length ≤ 5 * (host.pids podCgroup).length := by
  obtain ⟨removed, hi, hlen, hpid, -, -⟩ := tryKillingCgroupProcesses_spec host podCgroup
  have hlog : (destroy host podCgroup).2 = (tryKillingCgroupProcesses host podCgroup []).2 := by
    unfold destroy
    rcases tryKillingCgroupProcesses host podCgroup [] with ⟨_ | ⟨⟩, log⟩
    · rfl
    · cases host.destroy podCgroup <;> rfl
  rw [hlog]
  exact ⟨hpid, hi.noRekill, hlen⟩

end

end Cm

end FornaxStore
