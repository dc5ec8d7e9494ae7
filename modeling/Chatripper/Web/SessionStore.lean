import Mathlib
import Chatripper.Web.RateLimiter

/-!
# Web sessions

A session is made with a token, and ends when it expires.  A token that is validated is good for an hour
more; one that is found expired is forgotten.  A request names its token in a cookie, and the user of a
request is looked up in two steps, between which other requests may touch the store.

* `Live`          when a token is good, by what was answered before;
* `Session`       the session of a token, by the calls so far; `stored_after`: the store has it;
* `sessions`      the answers over any sequence of calls.
-/

namespace Chatripper
open ByteStr Utf8

namespace Web

/-! ## cookies -/

/-- `QChar::isSpace` -/
def isSpaceChar (c : Char) : Bool :=
  let n := c.toNat
  n == 0x20 || (0x09 ≤ n && n ≤ 0x0d) || n == 0x85 || n == 0xa0 || n == 0x1680 ||
    (0x2000 ≤ n && n ≤ 0x200a) || n == 0x2028 || n == 0x2029 || n == 0x202f || n == 0x205f ||
    n == 0x3000

/-- `QString::trimmed` -/
def trimmedText (s : QString) : QString := (s.dropWhile isSpaceChar).rdropWhile isSpaceChar

/-- the token of a `name=value` pair, if that is what the piece is -/
def sessionOf (p : Bytes) : Option QString :=
  match (fromUtf8 p).splitOn '=' |>.filter fun s => !s.isEmpty with
  | [name, value] => if trimmedText name = "session".toList then some (trimmedText value) else none
  | _ => none

/-- the first `Cookie` header decides; an empty token is none -/
def tokenFromRequest (cookies : List Bytes) : QString :=
  match cookies with
  | [] => []
  | first :: _ => ((split 59 first).findSome? sessionOf).getD []

/-! ## the store -/

structure SessionEntry where
  username : QString
  expires : Int

abbrev WebSessionStore := QHash QString SessionEntry

/-- a call that holds the mutex, with its token and its readings of the clock -/
inductive SessionCall where
  | createSession (token username : QString) (ttlSeconds now : Int)
  | validateToken (token : QString) (now refreshed : Int)
  | usernameForToken (token : QString)
  | destroySession (token : QString)
  deriving DecidableEq

namespace WebSessionStore

def createSession (token username : QString) (ttlSeconds now : Int) (s : WebSessionStore) :
    WebSessionStore :=
  s.insert token { username, expires := QDateTime.addSecs now ttlSeconds }

def validateToken (token : QString) (now refreshed : Int) (s : WebSessionStore) :
    Bool × WebSessionStore :=
  match s[token]? with
  | none => (false, s)
  | some e =>
    if e.expires < now then (false, s.erase token)
    else (true, s.insert token { e with expires := QDateTime.addSecs refreshed 3600 })

def usernameForToken (token : QString) (s : WebSessionStore) : QString :=
  match s[token]? with
  | none => []
  | some e => e.username

def destroySession (token : QString) (s : WebSessionStore) : WebSessionStore := s.erase token

/-- a call: the store after it, and what `validateToken` answers -/
def call (s : WebSessionStore) : SessionCall → Bool × WebSessionStore
  | .createSession token username ttlSeconds now => (true, createSession token username ttlSeconds now s)
  | .validateToken token now refreshed => validateToken token now refreshed s
  | .usernameForToken _ => (true, s)
  | .destroySession token => (true, destroySession token s)

def after (s : WebSessionStore) (calls : List SessionCall) : WebSessionStore :=
  calls.foldl (fun s c => (call s c).2) s

/-- calls with their answers -/
def answers (s : WebSessionStore) : List SessionCall → List (SessionCall × Bool)
  | [] => []
  | c :: calls => (c, (call s c).1) :: answers (call s c).2 calls

/-- the account of a request; `between` is what other threads do between the two lookups -/
def get_user (accounts_lookup_name : QHash Bytes AccId) (cookies : List Bytes) (now refreshed : Int)
    (between : List SessionCall) (s : WebSessionStore) : Option AccId × WebSessionStore :=
  let token := tokenFromRequest cookies
  if token = [] then (none, s)
  else
    let (valid, s) := validateToken token now refreshed s
    if !valid then (none, s)
    else
      let s := after s between
      let username := usernameForToken token s
      if username = [] then (none, s)
      else (accounts_lookup_name[toUtf8 username]?, s)

/-! ## what was answered before -/

/-- a call that ends the session of a token, or begins another -/
def Ends (t : QString) : SessionCall × Bool → Prop
  | (.createSession token _ _ _, _) => token = t
  | (.validateToken token _ _, valid) => token = t ∧ valid = false
  | (.usernameForToken _, _) => False
  | (.destroySession token, _) => token = t

/-- when a token was found valid -/
def validatedAt (t : QString) : SessionCall × Bool → Option Int
  | (.validateToken token _ refreshed, valid) =>
    if token = t ∧ valid = true then some refreshed else none
  | _ => none

/-- when a token expires that was to expire at `e` -/
def expiryAfter (t : QString) (e : Int) (h : List (SessionCall × Bool)) : Int :=
  ((h.filterMap (validatedAt t)).getLast?.map fun n => QDateTime.addSecs n 3600).getD e

/-- the session that was made last for a token, and has not ended -/
def Session (t : QString) (e : SessionEntry) (h : List (SessionCall × Bool)) : Prop :=
  ∃ front ttlSeconds now answer back,
    h = front ++ (.createSession t e.username ttlSeconds now, answer) :: back ∧
      (∀ r ∈ back, ¬ Ends t r) ∧ e.expires = expiryAfter t (QDateTime.addSecs now ttlSeconds) back

/-- a token is good at `n` -/
def Live (t : QString) (n : Int) (h : List (SessionCall × Bool)) : Prop :=
  ∃ e, Session t e h ∧ n ≤ e.expires

theorem expiryAfter_concat (t : QString) (e : Int) (h : List (SessionCall × Bool))
    (r : SessionCall × Bool) : expiryAfter t e (h ++ [r]) =
      ((validatedAt t r).map fun n => QDateTime.addSecs n 3600).getD (expiryAfter t e h) := by
  unfold expiryAfter
  rw [List.filterMap_append]
  cases hr : validatedAt t r with
  | none =>
    rw [List.filterMap_cons_none hr, List.filterMap_nil, List.append_nil]
    rfl
  | some n =>
    rw [List.filterMap_cons_some hr, List.filterMap_nil, List.getLast?_concat]
    rfl

theorem session_concat {t : QString} {e : SessionEntry} {h : List (SessionCall × Bool)}
    {r : SessionCall × Bool} : Session t e (h ++ [r]) ↔
      (∃ ttlSeconds now, r.1 = .createSession t e.username ttlSeconds now ∧
        e.expires = QDateTime.addSecs now ttlSeconds) ∨
      ¬ Ends t r ∧ ∃ e', Session t e' h ∧ e.username = e'.username ∧
        e.expires = ((validatedAt t r).map fun n => QDateTime.addSecs n 3600).getD e'.expires := by
  constructor
  · rintro ⟨front, ttlSeconds, now, answer, back, hh, hback, hexp⟩
    rcases List.eq_nil_or_concat back with rfl | ⟨back, r', rfl⟩
    · obtain ⟨-, hr⟩ := List.append_inj' hh rfl
      cases List.singleton_injective hr
      exact .inl ⟨ttlSeconds, now, rfl, hexp⟩
    · rw [List.concat_eq_append, ← List.cons_append, ← List.append_assoc] at hh
      obtain ⟨hfront, hr⟩ := List.append_inj' hh rfl
      cases List.singleton_injective hr
      rw [List.concat_eq_append] at hback hexp
      rw [expiryAfter_concat] at hexp
      refine .inr ⟨hback r (List.mem_append_right back (List.mem_singleton.mpr rfl)),
        ⟨e.username, expiryAfter t (QDateTime.addSecs now ttlSeconds) back⟩, ?_, rfl, hexp⟩
      exact ⟨front, ttlSeconds, now, answer, back, hfront,
        fun r' hr' => hback r' (List.mem_append_left _ hr'), rfl⟩
  · rintro (⟨ttlSeconds, now, hr, hexp⟩ | ⟨hends, e', ⟨front, ttlSeconds, now, answer, back, hh, hback,
      hexp'⟩, huser, hexp⟩)
    · refine ⟨h, ttlSeconds, now, r.2, [], ?_, fun r hr => absurd hr List.not_mem_nil, hexp⟩
      rw [← hr]
    · refine ⟨front, ttlSeconds, now, answer, back ++ [r], ?_, ?_, ?_⟩
      · rw [hh, huser, List.append_assoc, List.cons_append]
      · intro r' hr'
        rcases List.mem_append.mp hr' with hr' | hr'
        · exact hback r' hr'
        · rw [List.mem_singleton.mp hr']
          exact hends
      · rw [expiryAfter_concat, ← hexp', hexp]

/-! ## what the store has -/

section
variable (s : WebSessionStore) (calls : List SessionCall) (c : SessionCall)

theorem after_concat : after s (calls ++ [c]) = (call (after s calls) c).2 := by
  unfold after
  rw [List.foldl_append]
  rfl

theorem answers_concat : answers s (calls ++ [c]) =
    answers s calls ++ [(c, (call (after s calls) c).1)] := by
  induction calls generalizing s with
  | nil => rfl
  | cons c' calls ih =>
    rw [List.cons_append, answers, answers, ih, List.cons_append]
    rfl

end

theorem validateToken_eq_true {s : WebSessionStore} {t : QString} {n n' : Int} :
    (validateToken t n n' s).1 = true ↔ ∃ e, s[t]? = some e ∧ n ≤ e.expires := by
  unfold validateToken
  cases he : s[t]? with
  | none => exact iff_of_false (fun h => (by cases h)) (by rintro ⟨e, he, -⟩; cases he)
  | some e =>
    dsimp only
    by_cases hn : e.expires < n
    · rw [if_pos hn]
      refine iff_of_false (fun h => (by cases h)) ?_
      rintro ⟨e', he', hle⟩
      cases he'
      omega
    · rw [if_neg hn]
      exact iff_of_true rfl ⟨e, rfl, by omega⟩

section
variable {s : WebSessionStore} {t : QString} {now refreshed : Int} {e : SessionEntry}

theorem validateToken_none (h : s[t]? = none) : validateToken t now refreshed s = (false, s) := by
  unfold validateToken
  rw [h]

theorem validateToken_expired (h : s[t]? = some e) (hn : e.expires < now) :
    validateToken t now refreshed s = (false, s.erase t) := by
  unfold validateToken
  rw [h]
  exact if_pos hn

theorem validateToken_valid (h : s[t]? = some e) (hn : ¬ e.expires < now) :
    validateToken t now refreshed s =
      (true, s.insert t { e with expires := QDateTime.addSecs refreshed 3600 }) := by
  unfold validateToken
  rw [h]
  exact if_neg hn

theorem validateToken_other {t' : QString} (h : t' ≠ t) :
    (validateToken t now refreshed s).2[t']? = s[t']? := by
  cases he : s[t]? with
  | none => rw [validateToken_none he]
  | some e =>
    by_cases hn : e.expires < now
    · rw [validateToken_expired he hn, lookup_erase, if_neg h]
    · rw [validateToken_valid he hn, lookup_insert, if_neg h]

end

/-- one call, and what the store has of a token -/
theorem lookup_call {s : WebSessionStore} {c : SessionCall} {t : QString} {e : SessionEntry} :
    (call s c).2[t]? = some e ↔
      (∃ ttlSeconds now, c = .createSession t e.username ttlSeconds now ∧
        e.expires = QDateTime.addSecs now ttlSeconds) ∨
      ¬ Ends t (c, (call s c).1) ∧ ∃ e', s[t]? = some e' ∧ e.username = e'.username ∧
        e.expires = ((validatedAt t (c, (call s c).1)).map fun n =>
          QDateTime.addSecs n 3600).getD e'.expires := by
  have hkeep {r : SessionCall × Bool} (hends : ¬ Ends t r) (hnone : validatedAt t r = none) :
      s[t]? = some e ↔ ¬ Ends t r ∧ ∃ e', s[t]? = some e' ∧ e.username = e'.username ∧
        e.expires = ((validatedAt t r).map fun n => QDateTime.addSecs n 3600).getD e'.expires := by
    rw [hnone]
    constructor
    · intro he
      exact ⟨hends, e, he, rfl, rfl⟩
    · rintro ⟨-, e', he', huser, hexp⟩
      obtain ⟨username, expires⟩ := e
      cases huser
      cases hexp
      exact he'
  cases c with
  | createSession token username ttlSeconds now =>
    show (s.insert token ⟨username, QDateTime.addSecs now ttlSeconds⟩)[t]? = some e ↔ _
    rw [lookup_insert]
    by_cases ht : t = token
    · subst ht
      rw [if_pos rfl]
      constructor
      · intro h
        cases h
        exact .inl ⟨ttlSeconds, now, rfl, rfl⟩
      · rintro (⟨ttlSeconds', now', hc, hexp⟩ | ⟨hends, -⟩)
        · cases hc
          rw [← hexp]
        · exact absurd rfl hends
    · rw [if_neg ht, hkeep (r := (.createSession token username ttlSeconds now, true))
        (fun he => ht he.symm) rfl]
      refine (or_iff_right ?_).symm
      rintro ⟨_, _, hc, -⟩
      cases hc
      exact ht rfl
  | validateToken token now refreshed =>
    have hleft {r : Prop} : ((∃ ttlSeconds now', SessionCall.validateToken token now refreshed =
        .createSession t e.username ttlSeconds now' ∧ e.expires = QDateTime.addSecs now' ttlSeconds) ∨ r) ↔
          r := by
      refine or_iff_right ?_
      rintro ⟨_, _, hc, -⟩
      cases hc
    rw [hleft]
    show (validateToken token now refreshed s).2[t]? = some e ↔ ¬ Ends t (.validateToken token now refreshed,
      (validateToken token now refreshed s).1) ∧ _
    by_cases ht : t = token
    · subst ht
      cases he : s[t]? with
      | none =>
        rw [validateToken_none he, he]
        exact iff_of_false (fun h => (by cases h)) fun h => h.1 ⟨rfl, rfl⟩
      | some e0 =>
        by_cases hn : e0.expires < now
        · rw [validateToken_expired he hn, lookup_erase, if_pos rfl]
          exact iff_of_false (fun h => (by cases h)) fun h => h.1 ⟨rfl, rfl⟩
        · have hcall : (call s (.validateToken t now refreshed)).1 = true :=
            congrArg Prod.fst (validateToken_valid he hn)
          have hat : validatedAt t (.validateToken t now refreshed, true) = some refreshed :=
            if_pos ⟨rfl, rfl⟩
          rw [validateToken_valid he hn, lookup_insert, if_pos rfl, hcall, hat]
          constructor
          · intro h
            cases h
            exact ⟨fun hends => Bool.false_ne_true hends.2.symm, e0, rfl, rfl, rfl⟩
          · rintro ⟨-, e', he', huser, hexp⟩
            cases he'
            obtain ⟨username, expires⟩ := e
            cases huser
            cases hexp
            rfl
    · rw [validateToken_other ht]
      refine hkeep (fun hends => ht hends.1.symm) ?_
      exact if_neg fun h => ht h.1.symm
  | usernameForToken token =>
    refine (hkeep (r := (.usernameForToken token, true)) (fun h => h) rfl).trans (or_iff_right ?_).symm
    rintro ⟨_, _, hc, -⟩
    cases hc
  | destroySession token =>
    show (s.erase token)[t]? = some e ↔ _
    rw [lookup_erase]
    by_cases ht : t = token
    · subst ht
      rw [if_pos rfl]
      refine iff_of_false (fun h => (by cases h)) ?_
      rintro (⟨_, _, hc, -⟩ | ⟨hends, -⟩)
      · cases hc
      · exact absurd rfl hends
    · rw [if_neg ht, hkeep (r := (.destroySession token, true)) (fun he => ht he.symm) rfl]
      refine (or_iff_right ?_).symm
      rintro ⟨_, _, hc, -⟩
      cases hc

/-- **What the store has of a token is the session that has not ended.** -/
theorem stored_after {calls : List SessionCall} {t : QString} {e : SessionEntry} :
    (after ∅ calls)[t]? = some e ↔ Session t e (answers ∅ calls) := by
  induction calls using List.reverseRecOn generalizing e with
  | nil =>
    refine iff_of_false (fun h => (by cases h)) ?_
    rintro ⟨front, _, _, _, back, h, -⟩
    exact List.append_ne_nil_of_right_ne_nil front (List.cons_ne_nil _ back) h.symm
  | append_singleton calls c ih =>
    rw [after_concat, answers_concat, lookup_call, session_concat]
    simp only [ih]

theorem validateToken_iff {calls : List SessionCall} {t : QString} {n n' : Int} :
    (validateToken t n n' (after ∅ calls)).1 = true ↔ Live t n (answers ∅ calls) := by
  rw [validateToken_eq_true]
  unfold Live
  simp only [stored_after]

/-! ## other tokens -/

def tokenOf : SessionCall → QString
  | .createSession token _ _ _ => token
  | .validateToken token _ _ => token
  | .usernameForToken token => token
  | .destroySession token => token

theorem lookup_call_other {s : WebSessionStore} {c : SessionCall} {t : QString} (h : tokenOf c ≠ t) :
    (call s c).2[t]? = s[t]? := by
  cases c with
  | createSession token username ttlSeconds now =>
    show (s.insert token _)[t]? = _
    rw [lookup_insert, if_neg fun he => h he.symm]
  | validateToken token now refreshed => exact validateToken_other fun he => h he.symm
  | usernameForToken token => rfl
  | destroySession token =>
    show (s.erase token)[t]? = _
    rw [lookup_erase, if_neg fun he => h he.symm]

/-- what two stores have of a token is the same after a call that is about it -/
theorem lookup_call_congr {s s' : WebSessionStore} {c : SessionCall} {t : QString}
    (hs : s'[t]? = s[t]?) (hc : tokenOf c = t) : (call s' c).2[t]? = (call s c).2[t]? := by
  subst hc
  cases c with
  | createSession token username ttlSeconds now =>
    show (s'.insert token _)[token]? = (s.insert token _)[token]?
    rw [lookup_insert, lookup_insert, if_pos rfl, if_pos rfl]
  | validateToken token now refreshed =>
    show (validateToken token now refreshed s').2[token]? = (validateToken token now refreshed s).2[token]?
    change s'[token]? = s[token]? at hs
    cases he : s[token]? with
    | none => rw [validateToken_none he, validateToken_none (hs.trans he), hs]
    | some e =>
      by_cases hn : e.expires < now
      · rw [validateToken_expired he hn, validateToken_expired (hs.trans he) hn, lookup_erase,
          lookup_erase, if_pos rfl, if_pos rfl]
      · rw [validateToken_valid he hn, validateToken_valid (hs.trans he) hn, lookup_insert,
          lookup_insert, if_pos rfl, if_pos rfl]
  | usernameForToken token => exact hs
  | destroySession token =>
    show (s'.erase token)[token]? = (s.erase token)[token]?
    rw [lookup_erase, lookup_erase, if_pos rfl, if_pos rfl]

theorem lookup_after_filter (calls : List SessionCall) (t : QString) :
    (after ∅ (calls.filter fun c => tokenOf c = t))[t]? = (after ∅ calls)[t]? := by
  induction calls using List.reverseRecOn with
  | nil => rfl
  | append_singleton calls c ih =>
    rw [after_concat, List.filter_append]
    by_cases hc : tokenOf c = t
    · rw [List.filter_cons_of_pos (by rw [decide_eq_true_iff]; exact hc), List.filter_nil, after_concat]
      exact lookup_call_congr ih hc
    · rw [List.filter_cons_of_neg (by rw [decide_eq_true_iff]; exact hc), List.filter_nil,
        List.append_nil, lookup_call_other hc, ih]

/-! ## the user of a request -/

/-- the token that a call hands out -/
def handedOut : SessionCall → Option QString
  | .createSession token _ _ _ => some token
  | _ => none

/-- a token that is handed out once belongs to one call -/
theorem eq_of_handedOut {calls : List SessionCall} (hnodup : (calls.filterMap handedOut).Nodup)
    {c c' : SessionCall} (hc : c ∈ calls) (hc' : c' ∈ calls) {t : QString}
    (h : handedOut c = some t) (h' : handedOut c' = some t) : c = c' := by
  induction calls with
  | nil => exact absurd hc List.not_mem_nil
  | cons x calls ih =>
    have hrest : ∀ y ∈ calls, handedOut y = some t → t ∈ calls.filterMap handedOut :=
      fun y hy hyt => List.mem_filterMap.mpr ⟨y, hy, hyt⟩
    rcases List.mem_cons.mp hc with rfl | hmem
    · rcases List.mem_cons.mp hc' with rfl | hmem'
      · rfl
      · rw [List.filterMap_cons_some h] at hnodup
        exact absurd (hrest c' hmem' h') (List.nodup_cons.mp hnodup).1
    · rcases List.mem_cons.mp hc' with rfl | hmem'
      · rw [List.filterMap_cons_some h'] at hnodup
        exact absurd (hrest c hmem h) (List.nodup_cons.mp hnodup).1
      · refine ih ?_ hmem hmem'
        cases hx : handedOut x with
        | none => rwa [List.filterMap_cons_none hx] at hnodup
        | some t' =>
          rw [List.filterMap_cons_some hx] at hnodup
          exact (List.nodup_cons.mp hnodup).2

/-- the call that made a session -/
theorem createSession_mem {t : QString} {e : SessionEntry} {calls : List SessionCall}
    (h : Session t e (answers ∅ calls)) :
    ∃ ttlSeconds now, .createSession t e.username ttlSeconds now ∈ calls := by
  obtain ⟨front, ttlSeconds, now, answer, back, hh, -⟩ := h
  have hmem : ∀ (s : WebSessionStore) r, r ∈ answers s calls → r.1 ∈ calls := by
    clear hh
    induction calls with
    | nil => exact fun s r hr => absurd hr List.not_mem_nil
    | cons c calls ih =>
      intro s r hr
      rcases List.mem_cons.mp hr with rfl | hr
      · exact List.mem_cons_self
      · exact List.mem_cons_of_mem _ (ih _ r hr)
  refine ⟨ttlSeconds, now, hmem ∅ (_, answer) ?_⟩
  rw [hh]
  exact List.mem_append_right _ List.mem_cons_self

theorem get_user_some {accounts : QHash Bytes AccId} {cookies : List Bytes} {n n' : Int}
    {between calls : List SessionCall} {a : AccId}
    (h : (get_user accounts cookies n n' between (after ∅ calls)).1 = some a) :
    (validateToken (tokenFromRequest cookies) n n' (after ∅ calls)).1 = true ∧
      ∃ e, (after ∅ (calls ++ .validateToken (tokenFromRequest cookies) n n' :: between))[
        tokenFromRequest cookies]? = some e ∧ accounts[toUtf8 e.username]? = some a := by
  unfold get_user at h
  dsimp only at h
  split_ifs at h with htoken hvalid huser
  have hafter : after ∅ (calls ++ .validateToken (tokenFromRequest cookies) n n' :: between) =
      after (validateToken (tokenFromRequest cookies) n n' (after ∅ calls)).2 between := by
    unfold after
    rw [List.foldl_append]
    rfl
  refine ⟨by simpa using hvalid, ?_⟩
  rw [hafter]
  unfold usernameForToken at h huser
  cases he : (after (validateToken (tokenFromRequest cookies) n n' (after ∅ calls)).2 between)[
      tokenFromRequest cookies]? with
  | none =>
    rw [he] at huser
    exact absurd rfl huser
  | some e =>
    rw [he] at h
    exact ⟨e, rfl, h⟩

/-- **The answers of the store, over any sequence of calls.** -/
theorem sessions (calls : List SessionCall) :
    (∀ t n n', (validateToken t n n' (after ∅ calls)).1 = true ↔ Live t n (answers ∅ calls)) ∧
    (∀ t n n', (validateToken t n n' (after ∅ (calls.filter fun c => tokenOf c = t))).1 =
      (validateToken t n n' (after ∅ calls)).1) ∧
    ∀ (accounts : QHash Bytes AccId) cookies n n' between a,
      ((calls ++ between).filterMap handedOut).Nodup →
      (get_user accounts cookies n n' between (after ∅ calls)).1 = some a →
      Live (tokenFromRequest cookies) n (answers ∅ calls) ∧
        ∃ username ttlSeconds now,
          .createSession (tokenFromRequest cookies) username ttlSeconds now ∈ calls ∧
            accounts[toUtf8 username]? = some a := by
  refine ⟨fun t n n' => validateToken_iff, ?_, ?_⟩
  · intro t n n'
    apply Bool.eq_iff_iff.mpr
    rw [validateToken_eq_true, validateToken_eq_true, lookup_after_filter]
  · intro accounts cookies n n' between a hnodup huser
    obtain ⟨hvalid, e, he, hacc⟩ := get_user_some huser
    have hlive := validateToken_iff.mp hvalid
    obtain ⟨e0, hsession, -⟩ := id hlive
    obtain ⟨ttlSeconds, now, hmem⟩ := createSession_mem hsession
    obtain ⟨ttlSeconds', now', hmem'⟩ := createSession_mem (stored_after.mp he)
    have hin : .createSession (tokenFromRequest cookies) e.username ttlSeconds' now' ∈
        calls ++ between := by
      rcases List.mem_append.mp hmem' with h | h
      · exact List.mem_append_left between h
      · rcases List.mem_cons.mp h with h | h
        · cases h
        · exact List.mem_append_right calls h
    have hsame := eq_of_handedOut hnodup hin (List.mem_append_left between hmem) rfl rfl
    rw [(SessionCall.createSession.inj hsame).2.1] at hacc
    exact ⟨hlive, e0.username, ttlSeconds, now, hmem, hacc⟩

/-- bob logs in and sends a request -/
theorem sessions_bob :
    Live "t".toList 5000 (answers ∅ [.createSession "t".toList "bob".toList 3600 0]) ∧
      ∃ username ttlSeconds now, .createSession "t".toList username ttlSeconds now ∈
        [SessionCall.createSession "t".toList "bob".toList 3600 0] ∧
          ((∅ : QHash Bytes AccId).insert (ascii "bob") 7)[toUtf8 username]? = some 7 :=
  (sessions [.createSession "t".toList "bob".toList 3600 0]).2.2
    ((∅ : QHash Bytes AccId).insert (ascii "bob") 7) [ascii "a=b; session=t"] 5000 5000 [] 7
    (by decide) rfl

end WebSessionStore

end Web

end Chatripper
