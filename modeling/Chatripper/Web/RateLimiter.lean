import Mathlib
import Chatripper.Core.Types
import Chatripper.Lib.FixedWindow

/-!
# The rate limiter of the web server

A table has the window of every address that has made a request.  `check` reads the clock twice: once
to decide, and once more to tell a client that is denied how long it has to wait.  Times are in
milliseconds, and what has elapsed of a window is counted in whole seconds.

* `windowOf_check`    `check` is a request to the window of its address;
* `results_callsOf`   the calls of one address do not depend on those of another;
* `rateLimited`       what is allowed and what is denied, over any sequence of calls.
-/

namespace Chatripper
open Utf8

/-! ## `QDateTime`, in milliseconds -/

namespace QDateTime

def addSecs (t s : Int) : Int := t + 1000 * s

/-- whole seconds, rounded toward zero -/
def secsTo (t u : Int) : Int := (u - t).tdiv 1000

theorem secsTo_ge_iff {t u : Int} {s : Int} (hs : 1 ≤ s) : s ≤ secsTo t u ↔ addSecs t s ≤ u := by
  unfold secsTo addSecs
  rcases Int.le_total 0 (u - t) with h | h
  · rw [Int.tdiv_eq_ediv_of_nonneg h, Int.le_ediv_iff_mul_le (by decide)]
    omega
  · have hneg : (u - t).tdiv 1000 ≤ 0 := by
      have h0 : 0 ≤ (t - u).tdiv 1000 := Int.tdiv_nonneg (by omega) (by decide)
      have hflip : (t - u).tdiv 1000 = -((u - t).tdiv 1000) := by
        rw [← Int.neg_tdiv, Int.neg_sub]
      omega
    constructor <;> intro hs' <;> omega

end QDateTime

namespace Web

structure RateLimitResult where
  allowed : Bool
  retryAfter : Option Int := none
  msg : QString := []

structure Entry where
  count : Int := 0
  windowStart : Int

structure RateLimiter where
  m_table : QHash QString Entry := ∅
  m_maxRequests : Int := 5
  m_windowSeconds : Int := 60

/-- a call of `check`, with the readings of the clock -/
structure CheckCall (Addr : Type) where
  addr : Addr
  msg : QString
  now : Int
  later : Int

namespace RateLimiter

section
-- `toString` is that of `QHostAddress`, `arg` puts a number into a text
variable {Addr : Type} (toString : Addr → QString) (arg : QString → Int → QString)

def check (limiter : RateLimiter) (call : CheckCall Addr) : RateLimitResult × RateLimiter :=
  let key := toString call.addr
  let now := call.now
  match limiter.m_table[key]? with
  | none =>
    ({ allowed := true },
      { limiter with m_table := limiter.m_table.insert key { count := 1, windowStart := now } })
  | some e =>
    let elapsed := QDateTime.secsTo e.windowStart now
    if limiter.m_windowSeconds ≤ elapsed then
      ({ allowed := true },
        { limiter with m_table := limiter.m_table.insert key { count := 1, windowStart := now } })
    else if e.count < limiter.m_maxRequests then
      ({ allowed := true },
        { limiter with m_table := limiter.m_table.insert key { e with count := e.count + 1 } })
    else
      let retry := QDateTime.addSecs e.windowStart limiter.m_windowSeconds
      let seconds := QDateTime.secsTo call.later retry
      ({ allowed := false, retryAfter := some retry, msg := arg call.msg seconds }, limiter)

/-- the limiter after calls -/
def after (limiter : RateLimiter) (calls : List (CheckCall Addr)) : RateLimiter :=
  calls.foldl (fun limiter call => (check toString arg limiter call).2) limiter

/-- calls with their results -/
def results (limiter : RateLimiter) :
    List (CheckCall Addr) → List (CheckCall Addr × RateLimitResult)
  | [] => []
  | call :: calls =>
    (call, (check toString arg limiter call).1) ::
      results (check toString arg limiter call).2 calls

end

/-! ## windows -/

/-- the window of a key -/
def windowOf (limiter : RateLimiter) (key : QString) : Option FixedWindow.Window :=
  limiter.m_table[key]?.map fun e => ⟨e.count, e.windowStart⟩

/-- the length of a window -/
def length (limiter : RateLimiter) : Int := 1000 * limiter.m_windowSeconds

section
variable {Addr : Type} (toString : Addr → QString) (arg : QString → Int → QString)
variable (limiter : RateLimiter) (call : CheckCall Addr)

@[simp] theorem check_maxRequests :
    (check toString arg limiter call).2.m_maxRequests = limiter.m_maxRequests := by
  unfold check
  dsimp only
  split
  · rfl
  · split_ifs <;> rfl

@[simp] theorem check_windowSeconds :
    (check toString arg limiter call).2.m_windowSeconds = limiter.m_windowSeconds := by
  unfold check
  dsimp only
  split
  · rfl
  · split_ifs <;> rfl

/-- the table of another key is left alone -/
theorem check_table_other {limiter : RateLimiter} {call : CheckCall Addr} {key : QString} (h : key ≠ toString call.addr) :
    (check toString arg limiter call).2.m_table[key]? = limiter.m_table[key]? := by
  have hinsert (e : Entry) :
      (limiter.m_table.insert (toString call.addr) e)[key]? = limiter.m_table[key]? := by
    rw [lookup_insert, if_neg h]
  unfold check
  dsimp only
  split
  · exact hinsert _
  · split_ifs
    · exact hinsert _
    · exact hinsert _
    · rfl

/-- **`check` is a request to the window of its address.** -/
theorem windowOf_check {limiter : RateLimiter} (call : CheckCall Addr)
    (hW : 1 ≤ limiter.m_windowSeconds) :
    (windowOf (check toString arg limiter call).2 (toString call.addr),
      (check toString arg limiter call).1.allowed) =
        FixedWindow.next limiter.m_maxRequests limiter.length
          (windowOf limiter (toString call.addr)) call.now := by
  have hinsert (e : Entry) : windowOf { limiter with
      m_table := limiter.m_table.insert (toString call.addr) e } (toString call.addr) =
        some ⟨e.count, e.windowStart⟩ := by
    unfold windowOf
    rw [lookup_insert, if_pos rfl]
    rfl
  cases he : limiter.m_table[toString call.addr]? with
  | none =>
    have hcheck : check toString arg limiter call = ({ allowed := true }, { limiter with
        m_table := limiter.m_table.insert (toString call.addr) ⟨1, call.now⟩ }) := by
      unfold check
      dsimp only
      rw [he]
    have hw : windowOf limiter (toString call.addr) = none := by
      unfold windowOf
      rw [he]
      rfl
    rw [hw, hcheck]
    exact congrArg (fun x => (x, true)) (hinsert _)
  | some e =>
    have hw : windowOf limiter (toString call.addr) = some ⟨e.count, e.windowStart⟩ := by
      unfold windowOf
      rw [he]
      rfl
    have hover : limiter.m_windowSeconds ≤ QDateTime.secsTo e.windowStart call.now ↔
        e.windowStart + limiter.length ≤ call.now := QDateTime.secsTo_ge_iff hW
    rw [hw]
    unfold check
    dsimp only
    rw [he]
    dsimp only
    by_cases hs : limiter.m_windowSeconds ≤ QDateTime.secsTo e.windowStart call.now
    · rw [if_pos hs, FixedWindow.next_over (hover.mp hs)]
      exact congrArg (fun x => (x, true)) (hinsert _)
    · have hn := fun h => hs (hover.mpr h)
      rw [if_neg hs]
      by_cases hc : e.count < limiter.m_maxRequests
      · rw [if_pos hc, FixedWindow.next_counts hn hc]
        exact congrArg (fun x => (x, true)) (hinsert _)
      · rw [if_neg hc, FixedWindow.next_full hn hc]
        exact congrArg (fun x => (x, false)) hw

end

/-! ## sequences of calls -/

section
variable {Addr : Type} (toString : Addr → QString) (arg : QString → Int → QString)

theorem windowOf_check_other (hinj : Function.Injective toString) {limiter : RateLimiter}
    {call : CheckCall Addr} {a : Addr} (h : call.addr ≠ a) :
    windowOf (check toString arg limiter call).2 (toString a) = windowOf limiter (toString a) := by
  unfold windowOf
  rw [check_table_other toString arg fun he => h (hinj he).symm]

variable [DecidableEq Addr]

/-- the calls of an address -/
def callsOf (a : Addr) (calls : List (CheckCall Addr)) : List (CheckCall Addr) :=
  calls.filter fun call => call.addr = a

def timesOf (a : Addr) (calls : List (CheckCall Addr)) : List Int :=
  (callsOf a calls).map CheckCall.now

/-- when the calls of an address were allowed -/
def allowedTimes (a : Addr) (rs : List (CheckCall Addr × RateLimitResult)) : List Int :=
  (rs.filter fun r => decide (r.1.addr = a) && r.2.allowed).map fun r => r.1.now

section
variable {a : Addr} {call : CheckCall Addr} {calls : List (CheckCall Addr)}
  {r : RateLimitResult} {rs : List (CheckCall Addr × RateLimitResult)}

theorem callsOf_cons : callsOf a (call :: calls) =
    if call.addr = a then call :: callsOf a calls else callsOf a calls := by
  unfold callsOf
  rw [List.filter_cons]
  simp only [decide_eq_true_eq]

theorem timesOf_cons : timesOf a (call :: calls) =
    if call.addr = a then call.now :: timesOf a calls else timesOf a calls := by
  unfold timesOf
  rw [callsOf_cons]
  split <;> rfl

theorem allowedTimes_cons : allowedTimes a ((call, r) :: rs) =
    if call.addr = a ∧ r.allowed = true then call.now :: allowedTimes a rs
    else allowedTimes a rs := by
  unfold allowedTimes
  rw [List.filter_cons]
  simp only [Bool.and_eq_true, decide_eq_true_eq]
  split <;> rfl

end

variable (hinj : Function.Injective toString)
include hinj

theorem windowOf_after (a : Addr) (calls : List (CheckCall Addr)) (limiter : RateLimiter)
    (hW : 1 ≤ limiter.m_windowSeconds) :
    windowOf (after toString arg limiter calls) (toString a) =
      (timesOf a calls).foldl (fun s n => (FixedWindow.next limiter.m_maxRequests limiter.length s n).1)
        (windowOf limiter (toString a)) := by
  induction calls generalizing limiter with
  | nil => rfl
  | cons call calls ih =>
    have hnext := ih (check toString arg limiter call).2 (by rw [check_windowSeconds]; exact hW)
    unfold length at hnext ⊢
    rw [check_maxRequests, check_windowSeconds] at hnext
    refine hnext.trans ?_
    rw [timesOf_cons]
    by_cases ha : call.addr = a
    · subst ha
      have hcheck := congrArg Prod.fst (windowOf_check toString arg call hW)
      dsimp only at hcheck
      rw [if_pos rfl, List.foldl_cons, hcheck]
      rfl
    · rw [if_neg ha, windowOf_check_other toString arg hinj ha]

/-- what an address is allowed is what a window allows -/
theorem allowedTimes_results (a : Addr) (calls : List (CheckCall Addr)) (limiter : RateLimiter)
    (hW : 1 ≤ limiter.m_windowSeconds) : allowedTimes a (results toString arg limiter calls) =
      FixedWindow.allowedFrom limiter.m_maxRequests limiter.length (windowOf limiter (toString a))
        (timesOf a calls) := by
  induction calls generalizing limiter with
  | nil => rfl
  | cons call calls ih =>
    have hnext := ih (check toString arg limiter call).2 (by rw [check_windowSeconds]; exact hW)
    unfold length at hnext ⊢
    rw [check_maxRequests, check_windowSeconds] at hnext
    rw [results, allowedTimes_cons, hnext, timesOf_cons]
    by_cases ha : call.addr = a
    · subst ha
      have hcheck := windowOf_check toString arg call hW
      have hwindow := congrArg Prod.fst hcheck
      have hallowed := congrArg Prod.snd hcheck
      unfold length at hwindow hallowed
      dsimp only at hwindow hallowed
      rw [if_pos rfl, FixedWindow.allowedFrom, ← hwindow, ← hallowed]
      by_cases hr : (check toString arg limiter call).1.allowed = true
      · rw [if_pos ⟨rfl, hr⟩, if_pos hr]
      · rw [if_neg fun h => hr h.2, if_neg hr]
    · rw [if_neg fun h => ha h.1, if_neg ha, windowOf_check_other toString arg hinj ha]

/-- the results of an address do not depend on the calls of others -/
theorem results_callsOf (a : Addr) (calls : List (CheckCall Addr)) {limiter limiter' : RateLimiter}
    (htable : limiter'.m_table[toString a]? = limiter.m_table[toString a]?)
    (hmax : limiter'.m_maxRequests = limiter.m_maxRequests)
    (hwindow : limiter'.m_windowSeconds = limiter.m_windowSeconds) :
    (results toString arg limiter calls).filter (fun r => r.1.addr = a) =
      results toString arg limiter' (callsOf a calls) := by
  induction calls generalizing limiter limiter' with
  | nil => rfl
  | cons call calls ih =>
    rw [results, List.filter_cons, callsOf_cons]
    simp only [decide_eq_true_eq]
    by_cases ha : call.addr = a
    · subst ha
      have hsame : (check toString arg limiter' call).1 = (check toString arg limiter call).1 ∧
          (check toString arg limiter' call).2.m_table[toString call.addr]? =
            (check toString arg limiter call).2.m_table[toString call.addr]? := by
        unfold check
        dsimp only
        rw [htable, hmax, hwindow]
        cases he : limiter.m_table[toString call.addr]? with
        | none =>
          refine ⟨rfl, ?_⟩
          dsimp only
          rw [lookup_insert, lookup_insert, if_pos rfl, if_pos rfl]
        | some e =>
          dsimp only
          split_ifs
          · exact ⟨rfl, by dsimp only; rw [lookup_insert, lookup_insert, if_pos rfl, if_pos rfl]⟩
          · exact ⟨rfl, by dsimp only; rw [lookup_insert, lookup_insert, if_pos rfl, if_pos rfl]⟩
          · exact ⟨rfl, htable⟩
      rw [if_pos rfl, if_pos rfl, results, hsame.1]
      congr 1
      exact ih hsame.2 (by rw [check_maxRequests, check_maxRequests, hmax])
        (by rw [check_windowSeconds, check_windowSeconds, hwindow])
    · rw [if_neg ha, if_neg ha]
      refine ih ?_ (by rw [check_maxRequests, hmax]) (by rw [check_windowSeconds, hwindow])
      rw [check_table_other toString arg fun he => ha (hinj he).symm, htable]

end

section
variable {Addr : Type} (toString : Addr → QString) (arg : QString → Int → QString)

theorem after_params (calls : List (CheckCall Addr)) (limiter : RateLimiter) :
    (after toString arg limiter calls).m_maxRequests = limiter.m_maxRequests ∧
      (after toString arg limiter calls).m_windowSeconds = limiter.m_windowSeconds := by
  induction calls generalizing limiter with
  | nil => exact ⟨rfl, rfl⟩
  | cons call calls ih =>
    obtain ⟨hmax, hwindow⟩ := ih (check toString arg limiter call).2
    rw [check_maxRequests] at hmax
    rw [check_windowSeconds] at hwindow
    exact ⟨hmax, hwindow⟩

/-- what a client is told when it is denied -/
theorem check_denied {limiter : RateLimiter} {call : CheckCall Addr}
    (h : (check toString arg limiter call).1.allowed = false) :
    ∃ x, windowOf limiter (toString call.addr) = some x ∧
      (check toString arg limiter call).1.retryAfter =
        some (QDateTime.addSecs x.start limiter.m_windowSeconds) ∧
      (check toString arg limiter call).2 = limiter := by
  unfold check at h ⊢
  unfold windowOf
  dsimp only at h ⊢
  cases he : limiter.m_table[toString call.addr]? with
  | none => rw [he] at h; cases h
  | some e =>
    rw [he] at h
    dsimp only at h ⊢
    refine ⟨_, rfl, ?_⟩
    split_ifs at h ⊢
    exact ⟨rfl, rfl⟩

variable [DecidableEq Addr]

/-- **The limits of an address, over any sequence of calls.** -/
theorem rateLimited (hinj : Function.Injective toString) {limiter : RateLimiter}
    (hnew : limiter.m_table = ∅) (hmax : 1 ≤ limiter.m_maxRequests)
    (hW : 1 ≤ limiter.m_windowSeconds) {calls : List (CheckCall Addr)}
    (hclock : (calls.map CheckCall.now).Pairwise (· ≤ ·)) :
    (∀ a t, (FixedWindow.inside t (QDateTime.addSecs t limiter.m_windowSeconds)
      (allowedTimes a (results toString arg limiter calls)) : Int) ≤ 2 * limiter.m_maxRequests) ∧
    (∀ front call back, calls = front ++ call :: back →
      (check toString arg (after toString arg limiter front) call).1.allowed = false →
      ∃ start, start ∈ allowedTimes call.addr (results toString arg limiter front) ∧
        start ≤ call.now ∧ call.now < QDateTime.addSecs start limiter.m_windowSeconds ∧
        (FixedWindow.inside start (QDateTime.addSecs start limiter.m_windowSeconds)
          (allowedTimes call.addr (results toString arg limiter front)) : Int) =
            limiter.m_maxRequests ∧
        (check toString arg (after toString arg limiter front) call).2 =
          after toString arg limiter front ∧
        (check toString arg (after toString arg limiter front) call).1.retryAfter =
          some (QDateTime.addSecs start limiter.m_windowSeconds) ∧
        ∀ between call' rest, back = between ++ call' :: rest → call'.addr = call.addr →
          QDateTime.addSecs start limiter.m_windowSeconds ≤ call'.now →
          (∀ c ∈ between, c.addr = call.addr →
            c.now < QDateTime.addSecs start limiter.m_windowSeconds) →
          (check toString arg (after toString arg limiter (front ++ call :: between)) call').1.allowed =
            true) ∧
    ∀ a, (results toString arg limiter calls).filter (fun r => r.1.addr = a) =
      results toString arg limiter (callsOf a calls) := by
  have hnone (a : Addr) : windowOf limiter (toString a) = none := by
    unfold windowOf
    rw [hnew]
    rfl
  have hD : 0 < limiter.length := by
    unfold length
    omega
  have hsorted (a : Addr) {front back : List (CheckCall Addr)} (h : calls = front ++ back) :
      (timesOf a front).Pairwise (· ≤ ·) := by
    rw [h, List.map_append] at hclock
    have hfront := (List.pairwise_append.mp hclock).1
    exact hfront.sublist (List.filter_sublist.map CheckCall.now)
  refine ⟨?_, ?_, ?_⟩
  · intro a t
    rw [allowedTimes_results toString arg hinj a calls limiter hW, hnone]
    exact FixedWindow.inside_allowed hmax hD (hsorted a (List.append_nil calls).symm) t
  · intro front call back hcalls hdenied
    obtain ⟨hmax', hwindow'⟩ := after_params toString arg front limiter
    have hW' : 1 ≤ (after toString arg limiter front).m_windowSeconds := by
      rw [hwindow']
      exact hW
    have hlength : (after toString arg limiter front).length = limiter.length := by
      unfold length
      rw [hwindow']
    obtain ⟨x, hx, hretry, hsame⟩ := check_denied toString arg hdenied
    have hnext := congrArg Prod.snd (windowOf_check toString arg call hW')
    rw [hdenied, hmax', hlength] at hnext
    obtain ⟨x', hx', hover, hfull⟩ := FixedWindow.next_denied.mp hnext.symm
    rw [hx] at hx'
    cases hx'
    -- what the window of the address knows
    have hafter : FixedWindow.after limiter.m_maxRequests limiter.length (timesOf call.addr front) =
        some x := by
      rw [windowOf_after toString arg hinj call.addr front limiter hW, hnone] at hx
      exact hx
    have hlast : ∀ n ∈ timesOf call.addr front, n ≤ call.now := by
      intro n hn
      obtain ⟨c, hc, rfl⟩ := List.mem_map.mp hn
      rw [hcalls, List.map_append, List.map_cons] at hclock
      exact (List.pairwise_append.mp hclock).2.2 _
        (List.mem_map_of_mem (List.mem_of_mem_filter hc)) _ List.mem_cons_self
    have hcounted := (FixedWindow.counted_after hmax hD (hsorted call.addr hcalls) hlast).1 x hafter
    have hallowed : allowedTimes call.addr (results toString arg limiter front) =
        FixedWindow.allowed limiter.m_maxRequests limiter.length (timesOf call.addr front) := by
      rw [allowedTimes_results toString arg hinj call.addr front limiter hW, hnone]
      rfl
    rw [hwindow'] at hretry
    rw [hallowed]
    refine ⟨x.start, hcounted.began, hcounted.last, hover, ?_, hsame, hretry, ?_⟩
    · exact hcounted.count.symm.trans (Int.le_antisymm hcounted.le hfull)
    · intro between call' rest hback haddr hlate hearly
      have hkeeps : windowOf (after toString arg limiter (front ++ call :: between))
          (toString call'.addr) = some x := by
        have hsplit : after toString arg limiter (front ++ call :: between) =
            after toString arg (after toString arg limiter front) between := by
          unfold after at hsame ⊢
          rw [List.foldl_append, List.foldl_cons, hsame]
        rw [hsplit, haddr, windowOf_after toString arg hinj call.addr between _ hW', hx, hmax', hlength]
        apply FixedWindow.foldl_full hfull
        intro n hn
        obtain ⟨c, hc, rfl⟩ := List.mem_map.mp hn
        obtain ⟨hmem, hc⟩ := List.mem_filter.mp hc
        exact hearly c hmem (of_decide_eq_true hc)
      obtain ⟨hmax'', hwindow''⟩ := after_params toString arg (front ++ call :: between) limiter
      have hcheck := congrArg Prod.snd (windowOf_check toString arg call' (hwindow''.symm ▸ hW))
      rw [hkeeps, FixedWindow.next_over] at hcheck
      · exact hcheck
      · unfold length
        rw [hwindow'']
        exact hlate
  · intro a
    exact results_callsOf toString arg hinj a calls rfl rfl rfl

end

/-- two requests in ten seconds: the third has to wait -/
def threeAtOnce : List (CheckCall QString) :=
  [⟨"a".toList, [], 0, 0⟩, ⟨"a".toList, [], 1, 1⟩, ⟨"b".toList, [], 2, 2⟩, ⟨"a".toList, [], 3, 3⟩]

theorem rateLimited_threeAtOnce :
    (FixedWindow.inside 0 10000 (allowedTimes "a".toList (results id (fun s _ => s)
      { m_maxRequests := 2, m_windowSeconds := 10 } threeAtOnce)) : Int) ≤ 4 ∧
    ∃ start, start < 4 ∧ (check id (fun s _ => s) (after id (fun s _ => s)
      { m_maxRequests := 2, m_windowSeconds := 10 } (threeAtOnce.take 3))
        ⟨"a".toList, [], 3, 3⟩).1.retryAfter = some (QDateTime.addSecs start 10) := by
  obtain ⟨hbound, hdenied, -⟩ := @rateLimited QString id (fun s _ => s) _ (fun _ _ h => h)
    { m_maxRequests := 2, m_windowSeconds := 10 } rfl (by decide) (by decide) threeAtOnce (by decide)
  obtain ⟨start, -, hstart, -, -, -, hretry, -⟩ :=
    hdenied (threeAtOnce.take 3) ⟨"a".toList, [], 3, 3⟩ [] rfl rfl
  exact ⟨hbound "a".toList 0, start, by dsimp only at hstart; omega, hretry⟩

end RateLimiter

end Web

end Chatripper
