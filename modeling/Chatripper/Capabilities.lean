import Mathlib
import Chatripper.Irc.Registering

/-!
# Capability negotiation

A CAP REQ line names capabilities to add and, with a `-`, to remove.  It is acknowledged as a whole
or refused as a whole.  Three lists of names take part: what the server has, what a request may name,
and what sets a bit.  The last one knows no removals and lacks three capabilities.

* `capRequest_refused`   a refused request changes no connection;
* `has_requests`         the bits after any requests;
* `negotiation_iff`      when they are what the client asked for.
-/

namespace Chatripper
open ByteStr Utf8 Outcome

/-! ## what a request asks for -/

/-- the capabilities that have a constant -/
def constantTable : List (QString × PROTOCOL_CAPABILITY) :=
  ([("multi-prefix", .MULTI_PREFIX), ("message-tags", .MESSAGE_TAGS),
    ("extended-join", .EXTENDED_JOIN), ("chghost", .CHGHOST), ("account-tag", .ACCOUNT_TAG),
    ("account-notify", .ACCOUNT_NOTIFY), ("echo-message", .ECHO_MESSAGE),
    ("znc.in/self-message", .ZNC_SELF_MESSAGE), ("draft/channel-rename", .CHANNEL_RENAME),
    ("draft/metadata", .METADATA), ("draft/metadata-2", .METADATA),
    ("soju.im/FILEHOST", .FILEHOST), ("extended-isupport", .EXTENDED_ISUPPORT)]
    : List (String × PROTOCOL_CAPABILITY)).map fun p => (p.1.toList, p.2)

def constantOf (cap_name : QString) : Option PROTOCOL_CAPABILITY :=
  (constantTable.find? fun p => p.1 == cap_name).map Prod.snd

/-- the constant that a word of a request mentions; is it an addition -/
def mention (word : QString) : Option (PROTOCOL_CAPABILITY × Bool) :=
  if word.head? = some '-' then (constantOf (word.drop 1)).map fun e => (e, false)
  else (constantOf word).map fun e => (e, true)

/-- is the last mention of the capability an addition -/
def wanted (e : PROTOCOL_CAPABILITY) (words : List QString) : Bool :=
  words.foldl (fun b word =>
    match mention word with
    | some (e', add) => if e' = e then add else b
    | none => b) false

/-- the capability is added somewhere -/
def added (e : PROTOCOL_CAPABILITY) (words : List QString) : Bool :=
  words.any fun word => mention word == some (e, true)

/-- the capabilities without a name that sets their bit -/
def unset : PROTOCOL_CAPABILITY → Bool
  | .ACCOUNT_TAG | .ACCOUNT_NOTIFY | .CHANNEL_RENAME | .FISH => true
  | _ => false

namespace client_connection
open World

/-! ## requests -/

/-- CAP REQ with what follows it on the line -/
def capRequest (env : Env) (c : ConnId) (w : World) (rest : List Bytes) : Except Fault World :=
  handleCAP env c (ascii "REQ" :: rest) w

/-- the words of a request -/
def requestWords : List Bytes → List QString
  | [] => []
  | line :: _ => requestedCaps line

/-- every word names a capability of the server -/
def allAvailable (env : Env) (rest : List Bytes) : Bool := (requestWords rest).all (availableCap env)

/-- the words of the requests that were acknowledged -/
def acknowledged (env : Env) (reqs : List (List Bytes)) : List QString :=
  reqs.flatMap fun rest => if allAvailable env rest then requestWords rest else []

section
variable {env : Env} {c : ConnId} {w : World}

theorem filter_none {rest : List QString} (h : rest.all (availableCap env) = true) :
    rest.filter (availableCap env) = rest ∧ rest.filter (fun r => !availableCap env r) = [] := by
  rw [List.all_eq_true] at h
  refine ⟨List.filter_eq_self.mpr h, List.filter_eq_nil_iff.mpr ?_⟩
  intro r hr
  rw [h r hr]
  decide

theorem filter_some {rest : List QString} (h : rest.all (availableCap env) = false) :
    rest.filter (fun r => !availableCap env r) ≠ [] := by
  intro hnil
  rw [List.all_eq_false] at h
  obtain ⟨r, hr, hnot⟩ := h
  have hmem : r ∈ rest.filter fun r => !availableCap env r :=
    List.mem_filter.mpr ⟨hr, by simpa using hnot⟩
  rw [hnil] at hmem
  cases hmem

theorem capRequest_nil (htask : (w.conn c).setup_tasks.has .CAP_EXCHANGE = true) :
    capRequest env c w [] = .ok (send_raw env c (ascii "CAP * NAK :") w) := by
  unfold capRequest handleCAP
  rw [if_pos htask]
  rfl

theorem capRequest_cons (htask : (w.conn c).setup_tasks.has .CAP_EXCHANGE = true) (line : Bytes)
    (rest : List Bytes) : capRequest env c w (line :: rest) = .ok (capREQ env c line w) := by
  unfold capRequest handleCAP
  rw [if_pos htask]
  rfl

/-- **NAK.**  A request that names what the server does not have is refused and changes nothing. -/
theorem capRequest_refused (htask : (w.conn c).setup_tasks.has .CAP_EXCHANGE = true)
    {rest : List Bytes} (hno : allAvailable env rest = false) :
    capRequest env c w rest =
      .ok (send_raw env c (ascii "CAP * NAK :" ++ joinSpace (requestWords rest)) w) := by
  cases rest with
  | nil => cases hno
  | cons line rest =>
    rw [capRequest_cons htask]
    unfold capREQ
    dsimp only
    rw [if_neg fun h => filter_some hno h.2]
    rfl

/-- a request for what the server has -/
theorem capRequest_granted (htask : (w.conn c).setup_tasks.has .CAP_EXCHANGE = true)
    {rest : List Bytes} (hall : allAvailable env rest = true) :
    ∃ w', capRequest env c w rest = .ok w' ∧
      (w'.conn c).setup_tasks = (w.conn c).setup_tasks ∧
      (w'.conn c).capabilities = (requestWords rest).foldl setCap (w.conn c).capabilities := by
  cases rest with
  | nil => exact ⟨_, capRequest_nil htask, rfl, rfl⟩
  | cons line rest =>
    refine ⟨_, capRequest_cons htask line rest, ?_⟩
    obtain ⟨hack, hnak⟩ := filter_none hall
    have hack : (requestedCaps line).filter (availableCap env) = requestedCaps line := hack
    have hnak : (requestedCaps line).filter (fun r => !availableCap env r) = [] := hnak
    unfold capREQ
    dsimp only
    rw [hack, hnak]
    by_cases hempty : requestedCaps line = []
    · have hwords : requestWords (line :: rest) = [] := hempty
      rw [if_neg fun h => h.1 hempty, hwords]
      exact ⟨rfl, rfl⟩
    · rw [if_pos ⟨hempty, rfl⟩, updConn_conn, if_pos rfl]
      exact ⟨rfl, rfl⟩

theorem capRequest_ok (htask : (w.conn c).setup_tasks.has .CAP_EXCHANGE = true) (rest : List Bytes) :
    ∃ w', capRequest env c w rest = .ok w' ∧ (w'.conn c).setup_tasks = (w.conn c).setup_tasks ∧
      (w'.conn c).capabilities = (acknowledged env [rest]).foldl setCap (w.conn c).capabilities := by
  unfold acknowledged
  rw [List.flatMap_singleton]
  by_cases hall : allAvailable env rest = true
  · rw [if_pos hall]
    exact capRequest_granted htask hall
  · rw [if_neg hall]
    exact ⟨_, capRequest_refused htask (by simpa using hall), rfl, rfl⟩

/-- the bits after any requests are those of the words that were acknowledged -/
theorem run_requests (htask : (w.conn c).setup_tasks.has .CAP_EXCHANGE = true)
    (reqs : List (List Bytes)) :
    ∃ w', run (capRequest env c) w reqs = .ok w' ∧ (w'.conn c).setup_tasks = (w.conn c).setup_tasks ∧
      (w'.conn c).capabilities = (acknowledged env reqs).foldl setCap (w.conn c).capabilities := by
  induction reqs generalizing w with
  | nil => exact ⟨w, rfl, rfl, rfl⟩
  | cons rest reqs ih =>
    obtain ⟨w1, h1, htask1, hcaps1⟩ := @capRequest_ok env _ _ htask rest
    obtain ⟨w2, h2, htask2, hcaps2⟩ := ih (w := w1) (by rw [htask1]; exact htask)
    refine ⟨w2, ?_, htask2.trans htask1, ?_⟩
    · rw [run_cons, h1]
      exact h2
    · rw [hcaps2, hcaps1, ← List.foldl_append]
      unfold acknowledged
      rw [← List.flatMap_append]
      rfl

/-! ## the bits -/

theorem has_setCaps (f : Flags PROTOCOL_CAPABILITY) (e : PROTOCOL_CAPABILITY) (words : List QString) :
    (words.foldl setCap f).has e = (f.has e || words.any fun word => capabilityOf word == some e) := by
  induction words generalizing f with
  | nil => simp
  | cons word words ih =>
    have hfirst : (setCap f word).has e = (f.has e || capabilityOf word == some e) := by
      unfold setCap
      cases capabilityOf word with
      | none => simp
      | some e' =>
        rw [Flags.has_set]
        congr 1
        rw [Bool.eq_iff_iff, decide_eq_true_iff, beq_iff_eq, Option.some.injEq, eq_comm]
    rw [List.foldl_cons, ih, hfirst, List.any_cons, Bool.or_assoc]

/-- what sets a bit is the table without three of its constants, and without the removals -/
theorem capabilityOf_eq (name : QString) :
    capabilityOf name = (constantOf name).filter fun e => !unset e := by
  by_cases hname : name ∈ constantTable.map Prod.fst
  · simp only [constantTable, List.map_cons, List.map_nil, List.mem_cons, List.not_mem_nil,
      or_false] at hname
    rcases hname with rfl | rfl | rfl | rfl | rfl | rfl | rfl | rfl | rfl | rfl | rfl | rfl | rfl <;>
      decide
  · have hnone : constantOf name = none := by
      unfold constantOf
      rw [List.find?_eq_none.mpr, Option.map_none]
      intro p hp hq
      apply hname
      rw [← beq_iff_eq.mp hq]
      exact List.mem_map_of_mem hp
    rw [hnone]
    simp only [constantTable, List.map_cons, List.map_nil, List.mem_cons, List.not_mem_nil,
      or_false, not_or] at hname
    obtain ⟨h1, h2, h3, h4, h5, h6, h7, h8, h9, h10, h11, h12, h13⟩ := hname
    unfold capabilityOf
    rw [if_neg h1, if_neg h3, if_neg h4, if_neg h7, if_neg h8, if_neg h2,
      if_neg (not_or.mpr ⟨h10, h11⟩), if_neg h12, if_neg h13]
    rfl

/-- no name starts with a `-` -/
theorem constantOf_removal {word : QString} (hword : word.head? = some '-') :
    constantOf word = none := by
  have hnames : ∀ p ∈ constantTable, p.1.head? ≠ some '-' := by decide
  unfold constantOf
  rw [List.find?_eq_none.mpr, Option.map_none]
  intro p hp heq
  apply hnames p hp
  rw [beq_iff_eq.mp heq, hword]

/-- a word sets the bit of what it adds, three capabilities apart -/
theorem capabilityOf_mention (word : QString) (e : PROTOCOL_CAPABILITY) :
    (capabilityOf word == some e) = (mention word == some (e, true) && !unset e) := by
  rw [capabilityOf_eq, Bool.eq_iff_iff, Bool.and_eq_true, beq_iff_eq, beq_iff_eq,
    Option.filter_eq_some_iff]
  unfold mention
  by_cases hword : word.head? = some '-'
  · rw [if_pos hword, constantOf_removal hword]
    simp
  · rw [if_neg hword]
    simp

/-- the bits after any requests -/
theorem has_requests (env : Env) (reqs : List (List Bytes)) (e : PROTOCOL_CAPABILITY) :
    ((acknowledged env reqs).foldl setCap ⟨0⟩).has e = (added e (acknowledged env reqs) && !unset e) := by
  have hempty : (⟨0⟩ : Flags PROTOCOL_CAPABILITY).has e = false := by
    cases e <;> rfl
  rw [has_setCaps, hempty, Bool.false_or]
  unfold added
  induction acknowledged env reqs with
  | nil => rfl
  | cons word words ih =>
    rw [List.any_cons, List.any_cons, ih, capabilityOf_mention, Bool.and_or_distrib_right]

theorem wanted_append (e : PROTOCOL_CAPABILITY) (words : List QString) (word : QString) :
    wanted e (words ++ [word]) =
      if mention word = some (e, true) then true
      else if mention word = some (e, false) then false else wanted e words := by
  unfold wanted
  rw [List.foldl_append, List.foldl_cons, List.foldl_nil]
  cases hm : mention word with
  | none => rfl
  | some m =>
    obtain ⟨e', add⟩ := m
    dsimp only
    by_cases he : e' = e
    · subst he
      cases add <;> simp
    · simp [he]

/-- what was never added is not wanted -/
theorem wanted_added {e : PROTOCOL_CAPABILITY} {words : List QString} (h : wanted e words = true) :
    added e words = true := by
  unfold added
  induction words using List.reverseRecOn with
  | nil => cases h
  | append_singleton words word ih =>
    rw [wanted_append] at h
    rw [List.any_append, Bool.or_eq_true]
    by_cases hadd : mention word = some (e, true)
    · right
      simp [hadd]
    · rw [if_neg hadd] at h
      left
      apply ih
      by_cases hrem : mention word = some (e, false)
      · rw [if_pos hrem] at h
        cases h
      · rwa [if_neg hrem] at h

/-- no added capability has a removal as its last mention, and the three without a bit have no
addition as theirs -/
def Orderly (words : List QString) : Prop :=
  ∀ e, e ≠ .FISH →
    if unset e then wanted e words = false else added e words = true → wanted e words = true

theorem orderly_iff (env : Env) (reqs : List (List Bytes)) :
    (∀ e, e ≠ .FISH → ((acknowledged env reqs).foldl setCap ⟨0⟩).has e =
      wanted e (acknowledged env reqs)) ↔ Orderly (acknowledged env reqs) := by
  apply forall_congr'
  intro e
  apply imp_congr_right
  intro _
  rw [has_requests]
  cases unset e with
  | true => rw [Bool.not_true, Bool.and_false, if_pos rfl, eq_comm]
  | false =>
    have hle : wanted e (acknowledged env reqs) = true → added e (acknowledged env reqs) = true :=
      wanted_added
    cases hw : wanted e (acknowledged env reqs) with
    | true =>
      rw [hle hw]
      simp
    | false => simp

/-- **Negotiation.**  A request for what the server does not have is answered NAK and changes no
bit.  After every request the bits are those that the client asked for last, if and only if what
was acknowledged until then was orderly. -/
theorem negotiation_iff (env : Env) (c : ConnId) (w : World)
    (htask : (w.conn c).setup_tasks.has .CAP_EXCHANGE = true)
    (hcaps : (w.conn c).capabilities = ⟨0⟩) (reqs : List (List Bytes)) :
    (∀ done rest, done ++ [rest] <+: reqs → allAvailable env rest = false →
      ∃ w1 w2, run (capRequest env c) w done = .ok w1 ∧ capRequest env c w1 rest = .ok w2 ∧
        w2.out = (send_raw env c (ascii "CAP * NAK :" ++ joinSpace (requestWords rest)) w1).out ∧
        (w2.conn c).capabilities = (w1.conn c).capabilities) ∧
    ((∀ done, done <+: reqs →
      ∃ w1, run (capRequest env c) w done = .ok w1 ∧
        ∀ e, e ≠ .FISH → (w1.conn c).capabilities.has e = wanted e (acknowledged env done)) ↔
      ∀ done, done <+: reqs → Orderly (acknowledged env done)) := by
  constructor
  · intro done rest _ hno
    obtain ⟨w1, hrun, htask1, _⟩ := @run_requests env _ _ htask done
    refine ⟨w1, _, hrun, capRequest_refused (by rw [htask1]; exact htask) hno, rfl, rfl⟩
  · apply forall_congr'
    intro done
    apply imp_congr_right
    intro _
    obtain ⟨w1, hrun, _, hcaps1⟩ := @run_requests env _ _ htask done
    rw [hcaps] at hcaps1
    rw [← orderly_iff, ← hcaps1]
    constructor
    · intro h
      obtain ⟨w2, hrun2, hbits⟩ := h
      rw [hrun] at hrun2
      cases hrun2
      exact hbits
    · intro h
      exact ⟨w1, hrun, h⟩

end

/-- one request, for two capabilities -/
def plainRequest : List (List Bytes) := [[ascii "message-tags echo-message"]]

theorem negotiation_plain :
    ∃ w1, run (capRequest Env.ascii 0) World.empty plainRequest = .ok w1 ∧
      ∀ e, e ≠ .FISH → (w1.conn 0).capabilities.has e = wanted e (acknowledged Env.ascii plainRequest) := by
  refine ((negotiation_iff Env.ascii 0 World.empty rfl rfl plainRequest).2.mpr ?_) _
    List.prefix_rfl
  intro done hdone
  rcases List.prefix_cons_iff.mp hdone with rfl | ⟨t, rfl, ht⟩
  · intro e _
    cases e <;> decide
  · rw [List.prefix_nil.mp ht]
    intro e _
    cases e <;> decide

/-- a capability is added and removed -/
def removalRequest : List (List Bytes) := [[ascii "multi-prefix"], [ascii "-multi-prefix"]]

/-- **Removal.**  The bit of a capability that was removed stays. -/
theorem removal_ignored :
    ∃ w', run (capRequest Env.ascii 0) World.empty removalRequest = .ok w' ∧
      wanted .MULTI_PREFIX (acknowledged Env.ascii removalRequest) = false ∧
      (w'.conn 0).capabilities.has .MULTI_PREFIX = true := by
  refine ⟨_, rfl, ?_, ?_⟩
  · decide
  · rfl

end client_connection

end Chatripper
