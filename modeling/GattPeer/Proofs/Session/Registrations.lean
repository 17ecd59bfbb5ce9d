import GattPeer.Proofs.Session.Departures
import GattPeer.Proofs.Session.Matches
import Mathlib.Data.List.Induction
import Mathlib.Data.List.Nodup

/-!
# The matches of a link

The table of a link is told by the log of what was done to it. A match stands in it if some call to
add a match answered its token, and since then the link was not stopped and nobody gave the token to
be removed, with whatever success. Tokens count up, so that none of them ever names two matches; a
token that was given up once is never good again.

## The argument

An operation registers a match, removes those of a token, forgets all, or leaves the table alone; so
a match that stands in the table after it was registered by it, or stood there before and was not
dropped by it. The log grows in the same way.
-/

namespace GattPeer

/-! ## Tokens -/

namespace Number

theorem eq_of_equals_int {x : Number} {a b : Int} (ha : x.equals (.int a) = true)
    (hb : x.equals (.int b) = true) : a = b := by
  rw [equals, beq_iff_eq] at ha hb
  unfold compare? at ha hb
  cases hx : x.exact with
  | undefined =>
    rw [hx] at ha
    exact absurd ha.symm (Option.some_ne_none _)
  | infinite negative =>
    rw [hx] at ha
    cases negative with
    | false => exact absurd (Option.some.inj ha) (by decide)
    | true => exact absurd (Option.some.inj ha) (by decide)
  | dyadic v p =>
    rw [hx] at ha hb
    have hva := Std.compare_eq_iff_eq.mp (Option.some.inj ha)
    have hvb := Std.compare_eq_iff_eq.mp (Option.some.inj hb)
    have hpos : 0 < (Nat.pow 2 (0 - p).toNat : Int) := by exact_mod_cast Nat.two_pow_pos _
    exact Int.eq_of_mul_eq_mul_right (Int.ne_of_gt hpos) (hva.symm.trans hvb)

end Number

namespace Value

theorem exists_number_of_equal_int {token : Value} {n : Int} (h : token.equal (.int n) = true) :
    ∃ x, token.number? = some x ∧ x.equals (.int n) = true := by
  cases token with
  | bool value => exact ⟨_, rfl, by simpa [equal, number?] using h⟩
  | int value => exact ⟨_, rfl, by simpa [equal, number?] using h⟩
  | real bits => exact ⟨_, rfl, by simpa [equal, number?] using h⟩
  | _ => simp [equal, number?, bytes?, entries?] at h

theorem eq_of_equal_int {token : Value} {a b : Int} (ha : token.equal (.int a) = true)
    (hb : token.equal (.int b) = true) : a = b := by
  obtain ⟨x, hx, hxa⟩ := exists_number_of_equal_int ha
  obtain ⟨y, hy, hyb⟩ := exists_number_of_equal_int hb
  obtain rfl : x = y := Option.some.inj (hx.symm.trans hy)
  exact Number.eq_of_equals_int hxa hyb

/-- A number can be a key. -/
theorem keyObstacle?_of_equal_int {token : Value} {n : Int} (h : token.equal (.int n) = true) :
    token.keyObstacle? = Option.none := by
  obtain ⟨x, hx, -⟩ := exists_number_of_equal_int h
  cases token with
  | bool value => rfl
  | int value => rfl
  | real bits => rfl
  | _ => exact nomatch hx

end Value

/-! ## The log -/

theorem append_singleton_cases {α : Type} {xs before after : List α} {x y : α}
    (h : xs ++ [x] = before ++ y :: after) :
    (xs = before ∧ x = y ∧ after = []) ∨
      ∃ rest, after = rest ++ [x] ∧ xs = before ++ y :: rest := by
  rcases List.eq_nil_or_concat after with rfl | ⟨rest, last, rfl⟩
  · obtain ⟨hxs, hx⟩ := List.append_inj' h rfl
    exact .inl ⟨hxs, List.singleton_inj.mp hx, rfl⟩
  · rw [List.concat_eq_append, ← List.cons_append, ← List.append_assoc] at h
    obtain ⟨hxs, hx⟩ := List.append_inj' h rfl
    rw [List.concat_eq_append, List.singleton_inj.mp hx]
    exact .inr ⟨rest, rfl, hxs⟩

namespace LogEntry

/-- An operation by which a match was registered, which answered its token. -/
def Registers (e : LogEntry Session.LinkStep) (m : Match) : Prop :=
  ∃ name failure, e.drive = .transport (.addMatch m.path name failure) ∧
    m.listener = .callback name failure ∧ e.report.outcome = .ok (.number m.token)

/-- An operation that drops the match of a token: it stops the link, or gives the token, in whatever
form, to be removed. -/
def Drops (e : LogEntry Session.LinkStep) (n : Nat) : Prop :=
  e.drive = .transport .stop ∨
    ∃ token, e.drive = .transport (.removeMatch token) ∧ token.equal (.int n) = true

theorem registers_addMatch_iff {path name : String} {failure : Option Failure}
    {r : Session.Report} {m : Match} :
    Registers ⟨.transport (.addMatch path name failure), r⟩ m ↔
      m.path = path ∧ m.listener = .callback name failure ∧ r.outcome = .ok (.number m.token) := by
  constructor
  · rintro ⟨name', failure', hdrive, hlistener, houtcome⟩
    cases hdrive
    exact ⟨rfl, hlistener, houtcome⟩
  · rintro ⟨rfl, hlistener, houtcome⟩
    exact ⟨name, failure, rfl, hlistener, houtcome⟩

theorem not_registers {step : Session.LinkStep} {r : Session.Report} {m : Match}
    (h : ∀ path name failure, step ≠ .addMatch path name failure) :
    ¬Registers ⟨.transport step, r⟩ m := by
  rintro ⟨name, failure, hdrive, -, -⟩
  cases hdrive
  exact h _ _ _ rfl

theorem drops_removeMatch_iff {token : Value} {r : Session.Report} {n : Nat} :
    Drops ⟨.transport (.removeMatch token), r⟩ n ↔ token.equal (.int n) = true := by
  constructor
  · rintro (hdrive | ⟨token', hdrive, htoken⟩)
    · exact nomatch hdrive
    · cases hdrive
      exact htoken
  · intro htoken
    exact .inr ⟨token, rfl, htoken⟩

theorem not_drops {step : Session.LinkStep} {r : Session.Report} {n : Nat} (hstop : step ≠ .stop)
    (hremove : ∀ token, step ≠ .removeMatch token) : ¬Drops ⟨.transport step, r⟩ n := by
  rintro (hdrive | ⟨token, hdrive, -⟩)
  · cases hdrive
    exact hstop rfl
  · cases hdrive
    exact hremove token rfl

/-- The token that an operation answered, if it added a match. -/
def returned? (e : LogEntry Session.LinkStep) : Option Nat :=
  match e.drive, e.report.outcome with
  | .transport (.addMatch ..), .ok (.number n) => some n
  | _, _ => none

end LogEntry

/-- A match was registered in the course of a log and not dropped since. -/
def Match.Stands (m : Match) (log : List (LogEntry Session.LinkStep)) : Prop :=
  ∃ before entry after, log = before ++ entry :: after ∧ entry.Registers m ∧
    ∀ e ∈ after, ¬e.Drops m.token

namespace Match

variable {m : Match}

theorem not_stands_nil (m : Match) : ¬m.Stands [] := by
  rintro ⟨before, entry, after, hlog, -, -⟩
  exact absurd hlog.symm (List.append_ne_nil_of_right_ne_nil _ (List.cons_ne_nil _ _))

/-- After one more operation a match stands if the operation registered it, or if it stood before
and was not dropped. -/
theorem stands_append_singleton {log : List (LogEntry Session.LinkStep)}
    {e : LogEntry Session.LinkStep} :
    m.Stands (log ++ [e]) ↔ e.Registers m ∨ (m.Stands log ∧ ¬e.Drops m.token) := by
  constructor
  · rintro ⟨before, entry, after, hlog, hregisters, hafter⟩
    rcases append_singleton_cases hlog with ⟨-, rfl, -⟩ | ⟨rest, rfl, rfl⟩
    · exact .inl hregisters
    · obtain ⟨hrest, hlast⟩ := List.forall_mem_append.mp hafter
      exact .inr ⟨⟨before, entry, rest, rfl, hregisters, hrest⟩, hlast _ List.mem_cons_self⟩
  · rintro (hregisters | ⟨⟨before, entry, after, rfl, hregisters, hafter⟩, hdrops⟩)
    · exact ⟨log, e, [], rfl, hregisters, List.forall_mem_nil _⟩
    · refine ⟨before, entry, after ++ [e], ?_, hregisters, ?_⟩
      · rw [List.append_assoc, List.cons_append]
      · exact List.forall_mem_append.mpr ⟨hafter, List.forall_mem_singleton.mpr hdrops⟩

end Match

/-! ## Steps -/

namespace Subscription

variable {t t' : Subscription}

/-- What an operation on the link does to the table, by how it ends. -/
inductive Alters (t t' : Subscription) :
    Session.LinkStep → Except Failure Reading → Prop where
  /-- A match is registered, and its token is answered. -/
  | registers (path name : String) (failure : Option Failure) {m : Match}
      (hm : m = ⟨t.nextToken, path, .callback name failure⟩) (htable : t'.table = t.table ++ [m])
      (hnext : t'.nextToken = t.nextToken + 1) :
      Alters t t' (.addMatch path name failure) (.ok (.number m.token))
  /-- A match is refused, and its token is used up. -/
  | refuses (path name : String) (failure : Option Failure) (refusal : Failure)
      (htable : t'.table = t.table) (hnext : t'.nextToken = t.nextToken + 1) :
      Alters t t' (.addMatch path name failure) (.error refusal)
  /-- The matches of a token are removed, whatever comes of it. -/
  | removes (token : Value) (outcome : Except Failure Reading)
      (htable : t'.table = left token t.table) (hnext : t'.nextToken = t.nextToken) :
      Alters t t' (.removeMatch token) outcome
  /-- All matches are forgotten. -/
  | stops (outcome : Except Failure Reading) (htable : t'.table = [])
      (hnext : t'.nextToken = t.nextToken) : Alters t t' .stop outcome
  /-- Nothing happens to the table. -/
  | spares {step : Session.LinkStep} {outcome : Except Failure Reading}
      (hadd : ∀ path name failure, step ≠ .addMatch path name failure)
      (hremove : ∀ token, step ≠ .removeMatch token) (hstop : step ≠ .stop)
      (htable : t'.table = t.table) (hnext : t'.nextToken = t.nextToken) :
      Alters t t' step outcome

theorem find?_of_mem {path : String} (h : t.Orderly path) {m : Match} (hm : m ∈ t.table)
    {token : Value} (htoken : token.equal (.int m.token) = true) :
    t.table.find? (fun x ↦ token.equal (.int x.token)) = some m := by
  cases hfound : t.table.find? fun x ↦ token.equal (.int x.token) with
  | none => exact absurd htoken (List.find?_eq_none.mp hfound m hm)
  | some x =>
    have hx : token.equal (.int x.token) = true :=
      List.find?_some (p := fun x : Match ↦ token.equal (.int x.token)) hfound
    have hsame : x.token = m.token := Int.ofNat_inj.mp (Value.eq_of_equal_int hx htoken)
    have hnodup : (t.table.map (·.token)).Nodup := List.pairwise_map.mpr h.distinct
    exact congrArg some
      (List.inj_on_of_nodup_map hnodup (List.mem_of_find?_eq_some hfound) hm hsame)

theorem left_of_mem {path : String} (h : t.Orderly path) {m : Match} (hm : m ∈ t.table)
    {token : Value} (htoken : token.equal (.int m.token) = true) :
    left token t.table = t.table.filter (·.token ≠ m.token) := by
  rw [left, Value.keyObstacle?_of_equal_int htoken, find?_of_mem h hm htoken]
  rfl

theorem left_of_forall {table : List Match} {token : Value}
    (h : ∀ m ∈ table, token.equal (.int m.token) = false) : left token table = table := by
  have hnone : table.find? (fun m ↦ token.equal (.int m.token)) = none :=
    List.find?_eq_none.mpr fun m hm ↦ Bool.eq_false_iff.mp (h m hm)
  rw [left, hnone]
  split <;> rfl

/-- **What is left when a token is given up**: the matches of all other tokens. -/
theorem mem_left_iff {path : String} (h : t.Orderly path) {token : Value} {m : Match} :
    m ∈ left token t.table ↔ m ∈ t.table ∧ ¬token.equal (.int m.token) = true := by
  by_cases hknown : ∃ x ∈ t.table, token.equal (.int x.token) = true
  · obtain ⟨x, hx, htoken⟩ := hknown
    rw [left_of_mem h hx htoken, List.mem_filter, decide_eq_true_iff]
    refine and_congr_right fun hm ↦ not_congr ⟨fun hsame ↦ ?_, fun hm' ↦ ?_⟩
    · rwa [hsame]
    · exact Int.ofNat_inj.mp (Value.eq_of_equal_int hm' htoken)
  · have hunknown : ∀ x ∈ t.table, token.equal (.int x.token) = false := fun x hx ↦
      Bool.eq_false_iff.mpr fun htoken ↦ hknown ⟨x, hx, htoken⟩
    rw [left_of_forall hunknown]
    exact ⟨fun hm ↦ ⟨hm, fun htoken ↦ hknown ⟨m, hm, htoken⟩⟩, And.left⟩

namespace Alters

variable {path : String} {step : Session.LinkStep} {r : Session.Report}

/-- A match that stands in the table then was registered by the operation, or stood there before and
was not dropped. -/
theorem mem_table_iff (halters : Alters t t' step r.outcome) (h : t.Orderly path) (m : Match) :
    m ∈ t'.table ↔ LogEntry.Registers ⟨.transport step, r⟩ m ∨
      (m ∈ t.table ∧ ¬LogEntry.Drops ⟨.transport step, r⟩ m.token) := by
  obtain ⟨outcome, trace, state⟩ := r
  change Alters t t' step outcome at halters
  cases halters with
  | registers place name failure hnew htable hnext =>
    rename_i new
    have hkept : ¬LogEntry.Drops ⟨.transport (.addMatch place name failure),
        ⟨.ok (.number new.token), trace, state⟩⟩ m.token := LogEntry.not_drops nofun nofun
    have hregisters : LogEntry.Registers ⟨.transport (.addMatch place name failure),
        ⟨.ok (.number new.token), trace, state⟩⟩ m ↔ m = new := by
      rw [LogEntry.registers_addMatch_iff, hnew]
      obtain ⟨token, mpath, listener⟩ := m
      simp only [Except.ok.injEq, Reading.number.injEq, Match.mk.injEq]
      exact ⟨fun ⟨hpath, hlistener, htoken⟩ ↦ ⟨htoken.symm, hpath, hlistener⟩,
        fun ⟨htoken, hpath, hlistener⟩ ↦ ⟨hpath, hlistener, htoken.symm⟩⟩
    rw [htable, List.mem_append, List.mem_singleton, hregisters, and_iff_left hkept, or_comm]
  | refuses place name failure refusal htable hnext =>
    have hkept : ¬LogEntry.Drops ⟨.transport (.addMatch place name failure),
        ⟨.error refusal, trace, state⟩⟩ m.token := LogEntry.not_drops nofun nofun
    have hregisters : ¬LogEntry.Registers ⟨.transport (.addMatch place name failure),
        ⟨.error refusal, trace, state⟩⟩ m := by
      rw [LogEntry.registers_addMatch_iff]
      exact fun ⟨_, _, houtcome⟩ ↦ nomatch houtcome
    rw [htable, or_iff_right hregisters, and_iff_left hkept]
  | removes token _ htable hnext =>
    have hadds : ¬LogEntry.Registers ⟨.transport (.removeMatch token), ⟨outcome, trace, state⟩⟩ m :=
      LogEntry.not_registers nofun
    rw [htable, mem_left_iff h, or_iff_right hadds, LogEntry.drops_removeMatch_iff]
  | stops _ htable hnext =>
    have hadds : ¬LogEntry.Registers ⟨.transport .stop, ⟨outcome, trace, state⟩⟩ m :=
      LogEntry.not_registers nofun
    rw [htable, or_iff_right hadds]
    exact ⟨fun hm ↦ absurd hm List.not_mem_nil, fun ⟨_, hkept⟩ ↦ absurd (.inl rfl) hkept⟩
  | spares hadd hremove hstop htable hnext =>
    rw [htable, or_iff_right (LogEntry.not_registers hadd),
      and_iff_left (LogEntry.not_drops hstop hremove)]

theorem nextToken_le (halters : Alters t t' step r.outcome) : t.nextToken ≤ t'.nextToken := by
  generalize r.outcome = outcome at halters
  cases halters with
  | registers _ _ _ _ _ hnext => omega
  | refuses _ _ _ _ _ hnext => omega
  | removes _ _ _ hnext => omega
  | stops _ _ hnext => omega
  | spares _ _ _ _ hnext => omega

theorem returned?_eq_some (halters : Alters t t' step r.outcome) {n : Nat}
    (hn : LogEntry.returned? ⟨.transport step, r⟩ = some n) :
    n = t.nextToken ∧ t'.nextToken = n + 1 := by
  obtain ⟨outcome, trace, state⟩ := r
  change Alters t t' step outcome at halters
  cases halters with
  | registers path name failure hm htable hnext =>
    obtain rfl := Option.some.inj hn
    rw [hm]
    exact ⟨rfl, hnext⟩
  | refuses path name failure refusal htable hnext => exact nomatch hn
  | removes token _ htable hnext => exact nomatch hn
  | stops _ htable hnext => exact nomatch hn
  | spares hadd hremove hstop htable hnext =>
    cases step with
    | addMatch path name failure => exact absurd rfl (hadd path name failure)
    | _ => exact nomatch hn

/-- The matches stand in the order of their tokens. -/
theorem pairwise_table (halters : Alters t t' step r.outcome) (h : t.Orderly path)
    (hsorted : t.table.Pairwise (·.token < ·.token)) :
    t'.table.Pairwise (·.token < ·.token) := by
  generalize r.outcome = outcome at halters
  cases halters with
  | registers place name failure hm htable hnext =>
    rw [htable]
    refine List.pairwise_append.mpr ⟨hsorted, List.pairwise_singleton .., fun x hx y hy ↦ ?_⟩
    rw [List.mem_singleton.mp hy, hm]
    exact h.fresh x hx
  | refuses _ _ _ _ htable _ => rwa [htable]
  | removes token _ htable _ =>
    rw [htable]
    exact hsorted.sublist (left_sublist ..)
  | stops _ htable _ =>
    rw [htable]
    exact List.Pairwise.nil
  | spares _ _ _ htable _ => rwa [htable]

end Alters

end Subscription

namespace Session

variable {s s' : Session BusLink}

open Subscription

theorem advance_addMatch_cases (h : s.Orderly) (replies : List BusReply) (path name : String)
    (failure : Option Failure) :
    let after := s.advance replies (.transport (.addMatch path name failure))
    (after.2.outcome = .ok (.number s.transport.nextToken) ∧ s.transport.running = true) ∨
      ∃ refusal, after.2.outcome = .error refusal := by
  intro after
  have hload : (s.loading replies).subscription.Orderly (s.loading replies).device.path := h
  rcases addMatch_cases hload path (.callback name failure) with
    ⟨s', hadd, hrunning, -⟩ | ⟨refusal, s', hadd, -, -⟩
  · have hadvance :
        after = (s', ⟨.ok (.number s.transport.nextToken), s'.trace, s'.device.state⟩) :=
      advance_of_ok (Act.bind_of_ok hadd _)
    exact .inl ⟨by rw [hadvance], hrunning⟩
  · have hadvance : after = (s', ⟨.error refusal, s'.trace, s'.device.state⟩) :=
      advance_of_error (Act.bind_of_error hadd _)
    exact .inr ⟨refusal, by rw [hadvance]⟩

/-- **What an operation on the link does to the table.** -/
theorem alters_advance (h : s.Orderly) (replies : List BusReply) (step : LinkStep) :
    Alters s.subscription (s.advance replies (.transport step)).1.subscription step
      (s.advance replies (.transport step)).2.outcome := by
  have hafter := subscription_advance h replies (.transport step)
  cases step with
  | addMatch path name failure =>
    rcases advance_addMatch_cases h replies path name failure with
      ⟨houtcome, hrunning⟩ | ⟨refusal, houtcome⟩
    · rw [houtcome] at hafter ⊢
      have hregistered := hafter.trans (if_pos (Bool.and_eq_true_iff.mpr ⟨rfl, hrunning⟩))
      exact .registers path name failure rfl (congrArg table hregistered)
        (congrArg nextToken hregistered)
    · rw [houtcome] at hafter ⊢
      have hrefused : (s.advance replies (.transport (.addMatch path name failure))).1.subscription
          = s.subscription.refusing := hafter
      exact .refuses path name failure refusal ((congrArg table hrefused).trans rfl)
        (congrArg nextToken hrefused)
  | removeMatch token =>
    exact .removes token _ (congrArg table hafter) ((congrArg nextToken hafter).trans rfl)
  | stop => exact .stops _ (congrArg table hafter) ((congrArg nextToken hafter).trans rfl)
  | _ =>
    exact .spares nofun nofun nofun ((congrArg table hafter).trans rfl)
      ((congrArg nextToken hafter).trans rfl)

/-! ## Runs of the link -/

def linkRun (s : Session BusLink) (steps : List (List BusReply × LinkStep)) :
    Session BusLink × List (LogEntry LinkStep) :=
  s.run (steps.map fun x ↦ (x.1, .transport x.2))

theorem linkRun_append_singleton (s : Session BusLink) (steps : List (List BusReply × LinkStep))
    (replies : List BusReply) (step : LinkStep) :
    s.linkRun (steps ++ [(replies, step)])
      = (((s.linkRun steps).1.advance replies (.transport step)).1, (s.linkRun steps).2
        ++ [⟨.transport step, ((s.linkRun steps).1.advance replies (.transport step)).2⟩]) := by
  rw [linkRun, List.map_append]
  exact Prod.ext (run_append_singleton ..) (log_append ..)

theorem Orderly.linkRun (h : s.Orderly) (steps : List (List BusReply × LinkStep)) :
    (s.linkRun steps).1.Orderly := h.run _

/-! ## What is asked of the bus -/

@[simp]
theorem isValid_busPath : ObjectPath.isValid BusNames.busPath = true := ObjectPath.isValid_bus

theorem departures_addMatch (path : String) (listener : Listener) (s : Session BusLink) :
    ((BusLink.addMatch path listener).leaves s).departures = s.departures ++
      if s.transport.running then [.call (BusLink.ruleMethod "AddMatch" path)] else [] := by
  let asking := s.subscribed (s.subscription.registering path listener)
  let asked := BusLink.call (BusLink.ruleMethod "AddMatch" path) .none
  have hadd : (BusLink.addMatch path listener).leaves s
      = (settle path s.transport.nextToken (asked.answers asking)).leaves
          (asked.leaves asking) := by
    have hbind : BusLink.addMatch path listener s
        = (asked.attempt >>= settle path s.transport.nextToken) asking := rfl
    rw [Act.leaves, hbind, Act.bind_of_ok (Act.attempt_eq ..)]
    rfl
  have hsettle : (settle path s.transport.nextToken (asked.answers asking)).Keeps
      (Sends fun _ ↦ False) (asked.leaves asking) := by
    cases asked.answers asking with
    | error failure => exact sends_of_trace_eq rfl
    | ok results => exact .bind (sends_report _) fun _ _ ↦ .pure _
  have hasked := BusLink.departures_call (BusLink.ruleMethod "AddMatch" path) .none asking
  rw [hadd, hsettle.departures_eq, hasked, BusLink.ruleMethod, isValid_busPath, Bool.and_true]
  rfl

theorem departures_removeMatch {place : String} (h : s.subscription.Orderly place) {m : Match}
    (hm : m ∈ s.transport.table) {token : Value} (htoken : token.equal (.int m.token) = true) :
    ((BusLink.removeMatch token).leaves s).departures
      = s.departures ++ [.call (BusLink.ruleMethod "RemoveMatch" m.path)] := by
  have hrunning : s.transport.running = true := by
    by_contra hidle
    have hnil := h.idle (Bool.eq_false_iff.mpr hidle)
    exact absurd (hnil ▸ hm : m ∈ ([] : List Match)) List.not_mem_nil
  let removed : Session BusLink := { s with transport := BusLink.forget m.token s.transport }
  let told := BusLink.call (BusLink.ruleMethod "RemoveMatch" m.path) .none
  have hkey : token.checkKey = .ok () := by
    rw [Value.checkKey, Value.keyObstacle?_of_equal_int htoken]
  have hfound : s.transport.table.find? (fun x ↦ token.equal (.int x.token)) = some m :=
    find?_of_mem h hm htoken
  have hremove : (BusLink.removeMatch token).leaves s
      = (discard told >>= fun _ ↦ Act.report (.matchRemoved m.path)).leaves removed := by
    rw [Act.leaves, removeMatch_eq, hkey, search, hfound, hrunning]
    cases s.transport.table.isEmpty <;> rfl
  have hrest : (told.leaves removed).Sends (fun _ ↦ False)
      ((discard told >>= fun _ ↦ Act.report (.matchRemoved m.path)).leaves removed) :=
    Act.leaves_bind (Act.leaves_bind (refl_of _ _) fun _ _ ↦ .pure _) fun _ _ ↦ sends_report _
  have htold := BusLink.departures_call (BusLink.ruleMethod "RemoveMatch" m.path) .none removed
  rw [hremove, hrest.departures_eq, htold, BusLink.ruleMethod, isValid_busPath, Bool.and_true]
  exact congrArg (s.departures ++ ·) (if_pos hrunning)

/-- A token that names no match changes nothing, whatever it is. -/
theorem leaves_removeMatch_of_unknown {token : Value}
    (h : ∀ m ∈ s.transport.table, token.equal (.int m.token) = false) :
    (BusLink.removeMatch token).leaves s = s := by
  have hnone : s.transport.table.find? (fun m ↦ token.equal (.int m.token)) = none :=
    List.find?_eq_none.mpr fun m hm ↦ Bool.eq_false_iff.mp (h m hm)
  rw [Act.leaves, removeMatch_eq, search, hnone]
  cases s.transport.table.isEmpty with
  | true => rfl
  | false =>
    cases token.checkKey with
    | ok _ => rfl
    | error failure => rfl

theorem advance_removeMatch_of_mem (h : s.Orderly) (replies : List BusReply) {m : Match}
    (hm : m ∈ s.transport.table) {token : Value} (htoken : token.equal (.int m.token) = true) :
    let after := s.advance replies (.transport (.removeMatch token))
    after.1.transport.table = s.transport.table.filter (·.token ≠ m.token) ∧
      after.2.departures = [.call (BusLink.ruleMethod "RemoveMatch" m.path)] := by
  intro after
  have hload : (s.loading replies).subscription.Orderly (s.loading replies).device.path := h
  have htable := congrArg table (subscription_advance h replies (.transport (.removeMatch token)))
  have hleaves : (Drive.transport (.removeMatch token)).act.leaves (s.loading replies)
      = (BusLink.removeMatch token).leaves (s.loading replies) := Act.leaves_return ..
  have hsent := departures_advance s replies (.transport (.removeMatch token))
  rw [hleaves] at hsent
  exact ⟨htable.trans (left_of_mem h hm htoken),
    hsent.trans (departures_removeMatch hload hm htoken)⟩

theorem advance_removeMatch_of_unknown (replies : List BusReply) {token : Value}
    (h : ∀ m ∈ s.transport.table, token.equal (.int m.token) = false) :
    let after := s.advance replies (.transport (.removeMatch token))
    after.1 = s.loading replies ∧ after.2.trace = [] := by
  intro after
  have hleaves : (Drive.transport (.removeMatch token)).act.leaves (s.loading replies)
      = (BusLink.removeMatch token).leaves (s.loading replies) := Act.leaves_return ..
  have hsame : (BusLink.removeMatch token).leaves (s.loading replies) = s.loading replies :=
    leaves_removeMatch_of_unknown h
  rw [hsame] at hleaves
  have hadvance := advance_eq s replies (.transport (.removeMatch token))
  rw [hleaves] at hadvance
  exact ⟨congrArg Prod.fst hadvance, congrArg (fun x ↦ x.2.trace) hadvance⟩

/-! ## Runs -/

theorem returned?_of_registers {e : LogEntry LinkStep} {m : Match} (h : e.Registers m) :
    e.returned? = some m.token := by
  obtain ⟨name, failure, hdrive, -, houtcome⟩ := h
  rw [LogEntry.returned?, hdrive, houtcome]

theorem not_drops_of_registers {e : LogEntry LinkStep} {m : Match} (h : e.Registers m) (n : Nat) :
    ¬e.Drops n := by
  obtain ⟨name, failure, hdrive, -, -⟩ := h
  rintro (hstop | ⟨token, hremove, -⟩)
  · exact nomatch hdrive.symm.trans hstop
  · exact nomatch hdrive.symm.trans hremove

/-- The log of a run of the link tells what stands in its table. -/
structure Recorded (s : Session BusLink) (log : List (LogEntry LinkStep)) : Prop where
  /-- In the table stands what the log says. -/
  table : ∀ m, m ∈ s.transport.table ↔ m.Stands log
  /-- The matches stand in the order of their tokens. -/
  sorted : s.transport.table.Pairwise (·.token < ·.token)
  /-- Tokens are answered in ascending order. -/
  ascending : (log.filterMap LogEntry.returned?).Pairwise (· < ·)
  /-- No token is answered that is still to come. -/
  below : ∀ n ∈ log.filterMap LogEntry.returned?, n < s.transport.nextToken
  /-- A match was asked for once by the operation that registered it. -/
  asked : ∀ e ∈ log, ∀ m, e.Registers m →
    e.report.departures = [.call (BusLink.ruleMethod "AddMatch" m.path)]
  /-- A token that was dropped names no match any more. -/
  gone : ∀ before e after n, log = before ++ e :: after →
    n ∈ before.filterMap LogEntry.returned? → e.Drops n →
    ∀ m ∈ s.transport.table, m.token ≠ n

theorem recorded_start (callTimeout : Value) (path : Option String) (address : String)
    (config : Setup) : (start (BusLink.initial callTimeout) path address config).Recorded [] where
  table m := ⟨fun hm ↦ absurd hm List.not_mem_nil, fun hm ↦ absurd hm m.not_stands_nil⟩
  sorted := List.Pairwise.nil
  ascending := List.Pairwise.nil
  below := List.forall_mem_nil _
  asked := List.forall_mem_nil _
  gone _ _ _ _ hlog :=
    absurd hlog.symm (List.append_ne_nil_of_right_ne_nil _ (List.cons_ne_nil _ _))

/-- The operation that registers a match asks the bus for it. -/
theorem departures_of_registers (h : s.Orderly) (replies : List BusReply) {step : LinkStep}
    {m : Match}
    (hm : LogEntry.Registers ⟨.transport step, (s.advance replies (.transport step)).2⟩ m) :
    (s.advance replies (.transport step)).2.departures
      = [.call (BusLink.ruleMethod "AddMatch" m.path)] := by
  obtain ⟨name, failure, hdrive, hlistener, houtcome⟩ := hm
  cases hdrive
  rcases advance_addMatch_cases h replies m.path name failure with
    ⟨-, hrunning⟩ | ⟨refusal, hrefused⟩
  · have hleaves : (Drive.transport (.addMatch m.path name failure)).act.leaves (s.loading replies)
        = (BusLink.addMatch m.path (.callback name failure)).leaves (s.loading replies) :=
      Act.leaves_return ..
    have hsent := departures_advance s replies (.transport (.addMatch m.path name failure))
    rw [hleaves, departures_addMatch] at hsent
    exact hsent.trans (if_pos hrunning)
  · exact nomatch houtcome.symm.trans hrefused

theorem Recorded.advance {log : List (LogEntry LinkStep)} (hrecorded : s.Recorded log)
    (h : s.Orderly) (replies : List BusReply) (step : LinkStep) :
    (s.advance replies (.transport step)).1.Recorded
      (log ++ [⟨.transport step, (s.advance replies (.transport step)).2⟩]) := by
  have halters := alters_advance h replies step
  have htable (m : Match) := halters.mem_table_iff h m
  have hnext := halters.nextToken_le
  have hasked : ∀ m,
      LogEntry.Registers ⟨.transport step, (s.advance replies (.transport step)).2⟩ m →
      (s.advance replies (.transport step)).2.departures
        = [.call (BusLink.ruleMethod "AddMatch" m.path)] :=
    fun _ ↦ departures_of_registers h replies
  have hreturned (n : Nat) := halters.returned?_eq_some (n := n)
  have hsorted := halters.pairwise_table h hrecorded.sorted
  generalize (s.advance replies (.transport step)).2 = r at *
  generalize (s.advance replies (.transport step)).1 = s' at *
  have hnew : [(⟨.transport step, r⟩ : LogEntry LinkStep)].filterMap LogEntry.returned?
      = (LogEntry.returned? ⟨.transport step, r⟩).toList := by
    cases hreturn : LogEntry.returned? ⟨.transport step, r⟩ with
    | none => rw [List.filterMap_cons_none hreturn]; rfl
    | some n => rw [List.filterMap_cons_some hreturn]; rfl
  refine ⟨fun m ↦ ?_, hsorted, ?_, ?_, ?_, ?_⟩
  · rw [Match.stands_append_singleton, ← hrecorded.table m]
    exact htable m
  · rw [List.filterMap_append, hnew]
    refine List.pairwise_append.mpr ⟨hrecorded.ascending, ?_, fun x hx n hn ↦ ?_⟩
    · cases LogEntry.returned? ⟨.transport step, r⟩ with
      | none => exact List.Pairwise.nil
      | some n => exact List.pairwise_singleton ..
    · rw [(hreturned n (Option.mem_toList.mp hn)).1]
      exact hrecorded.below x hx
  · rw [List.filterMap_append, hnew]
    refine List.forall_mem_append.mpr ⟨fun n hn ↦ (hrecorded.below n hn).trans_le hnext, ?_⟩
    intro n hn
    have hsucc : s'.transport.nextToken = n + 1 := (hreturned n (Option.mem_toList.mp hn)).2
    omega
  · exact List.forall_mem_append.mpr ⟨hrecorded.asked, List.forall_mem_singleton.mpr hasked⟩
  · intro before e after n hlog hn hdrops m hm
    rcases append_singleton_cases hlog with ⟨rfl, rfl, -⟩ | ⟨rest, -, rfl⟩
    · rcases (htable m).mp hm with hregisters | ⟨-, hkept⟩
      · exact absurd hdrops (not_drops_of_registers hregisters n)
      · rintro rfl
        exact hkept hdrops
    · rcases (htable m).mp hm with hregisters | ⟨hm, -⟩
      · have hlast := (hreturned m.token (returned?_of_registers hregisters)).1
        have hfirst : n ∈ (before ++ e :: rest).filterMap LogEntry.returned? := by
          rw [List.filterMap_append]
          exact List.mem_append_left _ hn
        have hlt := hrecorded.below n hfirst
        rw [hlast]
        exact hlt.ne'
      · exact hrecorded.gone before e rest n rfl hn hdrops m hm

/-- **The log of every run of the link tells what stands in its table.** -/
theorem recorded_linkRun (callTimeout : Value) (path : Option String) (address : String)
    (config : Setup) (steps : List (List BusReply × LinkStep)) :
    let run := (start (BusLink.initial callTimeout) path address config).linkRun steps
    run.1.Orderly ∧ run.1.Recorded run.2 := by
  intro run
  refine ⟨(orderly_start ..).linkRun steps, ?_⟩
  unfold run
  induction steps using List.reverseRecOn with
  | nil => exact recorded_start ..
  | append_singleton steps x ih =>
    obtain ⟨replies, step⟩ := x
    rw [linkRun_append_singleton]
    exact ih.advance ((orderly_start ..).linkRun steps) replies step

/-- **The matches of a link are those that were added and not given up.** In every run of a link,
with any success of its calls to the bus and with any stops and starts:

* The tokens that are answered ascend, so none of them is answered twice. In the table stand exactly
  the matches that were added, with the tokens that were answered, and that were not dropped since:
  by a stop, or by a call to remove their token, however it ended. A token that was dropped names no
  match from then on.
* A call to add a match that fails leaves the table as it was.
* A call to remove a match that stands in the table removes this match only, and it sends one
  message to the bus, whatever comes of it. The rule in this message is the one in the message that
  was sent when the match was added.
* A call to remove any other token sends nothing and changes nothing. -/
theorem matches_are_those_added_and_kept (callTimeout : Value) (path : Option String)
    (address : String) (config : Setup) (steps : List (List BusReply × LinkStep)) :
    let run := (start (BusLink.initial callTimeout) path address config).linkRun steps
    let s := run.1
    (run.2.filterMap LogEntry.returned?).Pairwise (· < ·) ∧
    (∀ m, m ∈ s.transport.table ↔ m.Stands run.2) ∧
    s.transport.table.Pairwise (·.token < ·.token) ∧
    (∀ before e after (n : Nat), run.2 = before ++ e :: after →
      n ∈ before.filterMap LogEntry.returned? → e.Drops n →
      ∀ token : Value, token.equal (.int n) = true →
      ∀ m ∈ s.transport.table, token.equal (.int m.token) = false) ∧
    (∀ replies path name failure refusal,
      let after := s.advance replies (.transport (.addMatch path name failure))
      after.2.outcome = .error refusal → after.1.transport.table = s.transport.table) ∧
    (∀ replies token m, m ∈ s.transport.table → token.equal (.int m.token) = true →
      let after := s.advance replies (.transport (.removeMatch token))
      after.1.transport.table = s.transport.table.filter (·.token ≠ m.token) ∧
      after.2.departures = [.call (BusLink.ruleMethod "RemoveMatch" m.path)] ∧
      ∀ e ∈ run.2, e.Registers m →
        e.report.departures = [.call (BusLink.ruleMethod "AddMatch" m.path)]) ∧
    ∀ replies token, (∀ m ∈ s.transport.table, token.equal (.int m.token) = false) →
      let after := s.advance replies (.transport (.removeMatch token))
      after.1 = s.loading replies ∧ after.2.trace = [] := by
  intro run s
  obtain ⟨horderly, hrecorded⟩ := recorded_linkRun callTimeout path address config steps
  refine ⟨hrecorded.ascending, hrecorded.table, hrecorded.sorted, ?_, ?_, ?_, ?_⟩
  · intro before e after n hlog hn hdrops token htoken m hm
    have hgone := hrecorded.gone before e after n hlog hn hdrops m hm
    refine Bool.eq_false_iff.mpr fun hsame ↦ hgone ?_
    exact Int.ofNat_inj.mp (Value.eq_of_equal_int hsame htoken)
  · intro replies path name failure refusal after houtcome
    have halters := alters_advance horderly replies (.addMatch path name failure)
    rw [houtcome] at halters
    cases halters with
    | refuses _ _ _ _ htable _ => exact htable
    | spares hadd _ _ _ _ => exact absurd rfl (hadd _ _ _)
  · intro replies token m hm htoken after
    obtain ⟨htable, hsent⟩ := advance_removeMatch_of_mem horderly replies hm htoken
    exact ⟨htable, hsent, fun e he ↦ hrecorded.asked e he m⟩
  · exact fun replies token hunknown ↦ advance_removeMatch_of_unknown replies hunknown

/-- Of two matches the first one is removed, though the bus refuses. Its token is given as a truth
value, which equals it. -/
theorem refused_removal_removes_one_match :
    let steps := [([], .start true none), ([], .addMatch "/a" "first" none),
      ([], .addMatch "/b" "second" none)]
    let s := ((start (BusLink.initial (.int 30)) (some "/dev") "" (.standard 64)).linkRun steps).1
    let after := s.advance [⟨[], .error (some "no") []⟩] (.transport (.removeMatch (.bool true)))
    ⟨1, "/a", .callback "first" none⟩ ∈ s.transport.table ∧
    after.2.outcome = .error (.refused "no" "") ∧
    after.1.transport.table = [⟨2, "/b", .callback "second" none⟩] ∧
    after.2.departures = [.call (BusLink.ruleMethod "RemoveMatch" "/a")] := by
  intro steps s after
  have htable : s.transport.table
      = [⟨1, "/a", .callback "first" none⟩, ⟨2, "/b", .callback "second" none⟩] := by
    unfold s steps
    rfl
  have hmem : ⟨1, "/a", .callback "first" none⟩ ∈ s.transport.table :=
    htable ▸ List.mem_cons_self
  have hrules := matches_are_those_added_and_kept (.int 30) (some "/dev") "" (.standard 64) steps
  obtain ⟨-, -, -, -, -, hremove, -⟩ := hrules
  obtain ⟨hleft, hsent, -⟩ :=
    hremove [⟨[], .error (some "no") []⟩] (.bool true) _ hmem (by decide)
  refine ⟨hmem, rfl, hleft.trans ?_, hsent⟩
  rw [htable]
  rfl

end Session

end GattPeer
