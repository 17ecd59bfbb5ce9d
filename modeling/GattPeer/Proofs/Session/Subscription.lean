import GattPeer.Proofs.Session.Signals
import GattPeer.Session.Run

/-!
# The subscription of a device

Two parties keep a record of a subscription to property changes: the device has the token that it
was given, and the link has the matches that are registered. What an operation does to both records
depends on nothing but the records, the path of the device, and whether the operation succeeded.

The records are *orderly* if every match that the device registered is the one that its token names.
Every operation keeps them so; hence there is at most one such match, and none while the device has
no token. The converse is no law: a link that is stopped forgets the match and the device keeps the
token.
-/

namespace GattPeer

@[simp] theorem Value.equal_int_iff (a b : Int) : (Value.int a).equal (.int b) = true ↔ a = b := by
  have hequal : (Value.int a).equal (.int b) = (Number.int a).equals (.int b) := by
    simp [equal, number?]
  rw [hequal, Number.equals, Number.compare?_int, beq_iff_eq, Option.some.injEq,
    Std.compare_eq_iff_eq]

/-- What a session over the bus remembers of its matches. -/
structure Subscription where
  /-- The token that the device was given. -/
  token : Option Value
  /-- Whether the link is running. -/
  running : Bool
  /-- The registered matches. -/
  table : List Match
  /-- The token of the next match. -/
  nextToken : Nat

def Session.subscription (s : Session BusLink) : Subscription :=
  ⟨s.token, s.transport.running, s.transport.table, s.transport.nextToken⟩

namespace Subscription

variable {t : Subscription} {path : String}

def own (t : Subscription) : List Match := t.table.filter Match.isOwn

/-! ## Operations -/

def registering (t : Subscription) (path : String) (listener : Listener) : Subscription :=
  { t with table := t.table ++ [⟨t.nextToken, path, listener⟩], nextToken := t.nextToken + 1 }

def refusing (t : Subscription) : Subscription := { t with nextToken := t.nextToken + 1 }

def left (token : Value) (table : List Match) : List Match :=
  if token.keyObstacle?.isSome then table
  else match table.find? fun m ↦ token.equal (.int m.token) with
    | none => table
    | some m => table.filter (·.token ≠ m.token)

def removing (t : Subscription) (token : Value) : Subscription :=
  { t with table := left token t.table }

/-- The subscription of a device on a path while an operation is carried out, in the course of which
signals may arrive: what is asked for is registered already, and what is given up is removed. -/
def during (t : Subscription) (path : String) : Drive Session.LinkStep → Subscription
  | .device .listen => if t.token.isSome then t else t.registering path .device
  | .device .stopListening =>
    match t.token with
    | none => t
    | some token => { t.removing token with token := none }
  | .transport (.addMatch path name failure) => t.registering path (.callback name failure)
  | .transport (.removeMatch token) => t.removing token
  | _ => t

/-- The subscription of a device on a path after an operation that succeeded or failed. Whatever
fails to register a match uses up a token, and whatever fails to remove one has removed it all the
same. -/
def after (t : Subscription) (path : String) (succeeded : Bool) :
    Drive Session.LinkStep → Subscription
  | .device .listen =>
    if t.token.isSome then t
    else if succeeded && t.running then
      { t.registering path .device with token := some (.int t.nextToken) }
    else t.refusing
  | .device .stopListening =>
    match t.token with
    | none => t
    | some token => { t.removing token with token := none }
  | .device _ => t
  | .transport (.start ..) | .transport (.enter ..) => { t with running := t.running || succeeded }
  | .transport .stop => { t with running := false, table := [] }
  | .transport (.addMatch path name failure) =>
    if succeeded && t.running then t.registering path (.callback name failure) else t.refusing
  | .transport (.removeMatch token) => t.removing token
  | .transport _ | .deadline _ => t

/-! ## Removal -/

theorem left_eq_filter (token : Value) (table : List Match) :
    ∃ p, left token table = table.filter p := by
  have hall : table = table.filter fun _ ↦ true := (List.filter_eq_self.mpr fun _ _ ↦ rfl).symm
  unfold left
  split
  · exact ⟨_, hall⟩
  · split
    · exact ⟨_, hall⟩
    · exact ⟨_, rfl⟩

theorem left_sublist (token : Value) (table : List Match) : (left token table).Sublist table := by
  obtain ⟨p, hleft⟩ := left_eq_filter token table
  rw [hleft]
  exact List.filter_sublist

/-- **A removed token is gone.** -/
theorem token_ne_of_mem_left {n : Nat} {table : List Match} {m : Match}
    (h : m ∈ left (.int n) table) : m.token ≠ n := by
  intro hn
  have hequal : (Value.int n).equal (.int m.token) = true := by
    rw [Value.equal_int_iff, hn]
  change m ∈ match table.find? fun m ↦ (Value.int n).equal (.int m.token) with
    | none => table
    | some m => table.filter (·.token ≠ m.token) at h
  cases hfound : table.find? fun m ↦ (Value.int n).equal (.int m.token) with
  | none =>
    rw [hfound] at h
    exact List.find?_eq_none.mp hfound m h hequal
  | some m' =>
    rw [hfound] at h
    have hfound' :=
      @List.find?_some _ (fun m : Match ↦ (Value.int n).equal (.int m.token)) _ _ hfound
    have htoken : (n : Int) = m'.token := (Value.equal_int_iff ..).mp hfound'
    have hne := of_decide_eq_true (List.mem_filter.mp h).2
    exact hne (hn.trans (Int.ofNat_inj.mp htoken))

/-! ## Orderly records -/

/-- Every match has a token of its own that was given out before, the device knows the token of each
match that it registered, and a link that is not running has no matches. -/
structure Orderly (path : String) (t : Subscription) : Prop where
  /-- No match has the token of the next one. -/
  fresh : ∀ m ∈ t.table, m.token < t.nextToken
  /-- No two matches have the same token. -/
  distinct : t.table.Pairwise (·.token ≠ ·.token)
  /-- A match that the device registered is for its path, and its token is the one that the device
  was given. -/
  own : ∀ m ∈ t.table, m.isOwn = true → t.token = some (.int m.token) ∧ m.path = path
  /-- A link that is not running has no matches. -/
  idle : t.running = false → t.table = []

theorem orderly_of_table_eq_nil (h : t.table = []) : t.Orderly path where
  fresh _ hm := absurd (h ▸ hm) List.not_mem_nil
  distinct := h ▸ List.Pairwise.nil
  own _ hm := absurd (h ▸ hm) List.not_mem_nil
  idle _ := h

namespace Orderly

theorem fewer (h : t.Orderly path) {t' : Subscription} (htable : t'.table.Sublist t.table)
    (hnext : t.nextToken ≤ t'.nextToken)
    (hown : ∀ m ∈ t'.table, m.isOwn = true → t'.token = t.token)
    (hrunning : t'.running = false → t.running = false) : t'.Orderly path where
  fresh m hm := Nat.lt_of_lt_of_le (h.fresh m (htable.subset hm)) hnext
  distinct := h.distinct.sublist htable
  own m hm hisOwn := by
    rw [hown m hm hisOwn]
    exact h.own m (htable.subset hm) hisOwn
  idle hidle := by
    have hnil := h.idle (hrunning hidle)
    rw [hnil] at htable
    exact List.sublist_nil.mp htable

theorem registering (h : t.Orderly path) {place : String} {listener : Listener}
    {token : Option Value} (hrunning : t.running = true)
    (hold : ∀ m ∈ t.table, m.isOwn = true → token = t.token)
    (hnew : listener.isDevice = true → token = some (.int t.nextToken) ∧ place = path) :
    Orderly path { t.registering place listener with token := token } where
  fresh m hm := by
    rcases List.mem_append.mp hm with hm | hm
    · exact Nat.lt_succ_of_lt (h.fresh m hm)
    · rw [List.mem_singleton.mp hm]
      exact Nat.lt_succ_self _
  distinct := by
    refine List.pairwise_append.mpr ⟨h.distinct, List.pairwise_singleton .., fun m hm m' hm' ↦ ?_⟩
    rw [List.mem_singleton.mp hm']
    exact Nat.ne_of_lt (h.fresh m hm)
  own m hm hisOwn := by
    rcases List.mem_append.mp hm with hm | hm
    · obtain ⟨htoken, hpath⟩ := h.own m hm hisOwn
      exact ⟨(hold m hm hisOwn).trans htoken, hpath⟩
    · rw [List.mem_singleton.mp hm] at hisOwn ⊢
      exact hnew hisOwn
  idle hidle := nomatch hrunning.symm.trans hidle

theorem filter_registering (h : t.Orderly path) (place : String) (listener : Listener) :
    (t.registering place listener).table.filter (·.token ≠ t.nextToken) = t.table := by
  have hold : t.table.filter (·.token ≠ t.nextToken) = t.table :=
    List.filter_eq_self.mpr fun m hm ↦ decide_eq_true (Nat.ne_of_lt (h.fresh m hm))
  have hnew : [(⟨t.nextToken, place, listener⟩ : Match)].filter (·.token ≠ t.nextToken) = [] :=
    List.filter_cons_of_neg (by simp)
  rw [Subscription.registering, List.filter_append, hold, hnew, List.append_nil]

theorem eq_of_not_running (h : t.Orderly path) (hrunning : t.running = false) :
    { t with running := false, table := [] } = t := by
  have htable := h.idle hrunning
  obtain ⟨token, running, table, nextToken⟩ := t
  obtain rfl : running = false := hrunning
  obtain rfl : table = [] := htable
  rfl

theorem own_eq_nil (h : t.Orderly path) (htoken : t.token = none) : t.own = [] := by
  refine List.filter_eq_nil_iff.mpr fun m hm hisOwn ↦ ?_
  exact nomatch htoken.symm.trans (h.own m hm hisOwn).1

/-- **A device has at most one match.** -/
theorem length_own_le_one (h : t.Orderly path) : t.own.length ≤ 1 := by
  have hdistinct : t.own.Pairwise (·.token ≠ ·.token) := h.distinct.sublist List.filter_sublist
  have htoken : ∀ m ∈ t.own, t.token = some (.int m.token) := by
    intro m hm
    obtain ⟨hm, hisOwn⟩ := List.mem_filter.mp hm
    exact (h.own m hm hisOwn).1
  match hown : t.own with
  | [] => exact Nat.zero_le 1
  | [_] => exact Nat.le_refl 1
  | a :: b :: rest =>
    rw [hown] at hdistinct htoken
    have hab : some (Value.int a.token) = some (.int b.token) :=
      (htoken a List.mem_cons_self).symm.trans
        (htoken b (List.mem_cons_of_mem _ List.mem_cons_self))
    have hne := List.rel_of_pairwise_cons hdistinct (List.mem_cons_self (a := b) (l := rest))
    exact absurd (Int.ofNat_inj.mp (Value.int.inj (Option.some.inj hab))) hne

theorem own_removing_eq_nil (h : t.Orderly path) {token : Value} (htoken : t.token = some token) :
    (t.removing token).own = [] := by
  refine List.filter_eq_nil_iff.mpr fun m hm hisOwn ↦ ?_
  have hm' : m ∈ left token t.table := hm
  obtain ⟨hknown, -⟩ := h.own m ((left_sublist ..).subset hm') hisOwn
  rw [htoken] at hknown
  rw [Option.some.inj hknown] at hm'
  exact token_ne_of_mem_left hm' rfl

/-- **Every operation keeps the records orderly.** -/
theorem after (h : t.Orderly path) (succeeded : Bool) (drive : Drive Session.LinkStep) :
    (t.after path succeeded drive).Orderly path := by
  have hrefusing : t.refusing.Orderly path :=
    h.fewer (List.Sublist.refl _) (Nat.le_succ _) (fun _ _ _ ↦ rfl) id
  have hremoving : ∀ token, (t.removing token).Orderly path := fun token ↦
    h.fewer (left_sublist ..) (Nat.le_refl _) (fun _ _ _ ↦ rfl) id
  have hstarted : Orderly path { t with running := t.running || succeeded } :=
    h.fewer (List.Sublist.refl _) (Nat.le_refl _) (fun _ _ _ ↦ rfl)
      fun hidle ↦ (Bool.or_eq_false_iff.mp hidle).1
  cases drive with
  | device step =>
    cases step with
    | listen =>
      rw [Subscription.after]
      split
      · exact h
      · next hsome =>
        have htoken : t.token = none := Option.not_isSome_iff_eq_none.mp hsome
        split
        · next hsucceeded =>
          refine h.registering (Bool.and_eq_true_iff.mp hsucceeded).2 (fun m hm hisOwn ↦ ?_)
            fun _ ↦ ⟨rfl, rfl⟩
          exact nomatch htoken.symm.trans (h.own m hm hisOwn).1
        · exact hrefusing
    | stopListening =>
      rw [Subscription.after]
      cases htoken : t.token with
      | none => exact h
      | some token =>
        refine (hremoving token).fewer (List.Sublist.refl _) (Nat.le_refl _) ?_ id
        intro m hm hisOwn
        exact absurd hisOwn (List.filter_eq_nil_iff.mp (h.own_removing_eq_nil htoken) m hm)
    | _ => exact h
  | transport step =>
    cases step with
    | start hasBus refusal => exact hstarted
    | enter hasBus refusal => exact hstarted
    | stop => exact orderly_of_table_eq_nil rfl
    | addMatch place name failure =>
      rw [Subscription.after]
      split
      · next hsucceeded =>
        exact h.registering (Bool.and_eq_true_iff.mp hsucceeded).2 (fun _ _ _ ↦ rfl) nofun
      · exact hrefusing
    | removeMatch token => exact hremoving token
    | _ => exact h
  | deadline id => exact h

end Orderly

/-! ## Matches of the device -/

theorem own_removing_sublist (t : Subscription) (token : Value) :
    (t.removing token).own.Sublist t.own := (left_sublist ..).filter _

@[simp] theorem own_registering_callback (t : Subscription) (place name : String)
    (failure : Option Failure) : (t.registering place (.callback name failure)).own = t.own := by
  have hnew : [(⟨t.nextToken, place, .callback name failure⟩ : Match)].filter Match.isOwn = [] :=
    rfl
  rw [own, registering, List.filter_append, hnew, List.append_nil]
  rfl

@[simp] theorem own_registering_device (t : Subscription) (place : String) :
    (t.registering place .device).own = t.own ++ [⟨t.nextToken, place, .device⟩] := by
  rw [own, registering, List.filter_append]
  rfl

/-- Only by listening does a device come by a match. -/
theorem own_during_sublist (t : Subscription) (path : String) {drive : Drive Session.LinkStep}
    (hdrive : drive ≠ .device .listen) : (t.during path drive).own.Sublist t.own := by
  unfold during
  split
  · exact absurd rfl hdrive
  · split
    · exact List.Sublist.refl _
    · exact t.own_removing_sublist _
  · exact t.own_registering_callback .. ▸ List.Sublist.refl _
  · exact t.own_removing_sublist _
  · exact List.Sublist.refl _

/-- An operation leaves the device no match that it did not have in its course. -/
theorem own_after_sublist (t : Subscription) (path : String) (succeeded : Bool)
    (drive : Drive Session.LinkStep) :
    (t.after path succeeded drive).own.Sublist (t.during path drive).own := by
  cases drive with
  | device step =>
    cases step with
    | listen =>
      rw [after, during]
      split
      · exact List.Sublist.refl _
      · split
        · exact List.Sublist.refl _
        · rw [own_registering_device]
          exact List.sublist_append_left ..
    | _ => exact List.Sublist.refl _
  | transport step =>
    cases step with
    | stop => exact List.nil_sublist _
    | addMatch place name failure =>
      rw [after, during]
      split
      · exact List.Sublist.refl _
      · exact t.own_registering_callback .. ▸ List.Sublist.refl _
    | _ => exact List.Sublist.refl _
  | deadline id => exact List.Sublist.refl _

theorem own_after_eq_nil (h : t.own = []) {drive : Drive Session.LinkStep}
    (hdrive : drive ≠ .device .listen) (succeeded : Bool) :
    (t.after path succeeded drive).own = [] := by
  have hsublist :=
    (t.own_after_sublist path succeeded drive).trans (t.own_during_sublist path hdrive)
  exact List.sublist_nil.mp (h ▸ hsublist)

/-- After an attempt to stop listening the device has no match, whether the attempt succeeds or
not. -/
theorem Orderly.own_after_stopListening (h : t.Orderly path) (succeeded : Bool) :
    (t.after path succeeded (.device .stopListening)).own = [] := by
  rw [Subscription.after]
  cases htoken : t.token with
  | none => exact h.own_eq_nil htoken
  | some token => exact h.own_removing_eq_nil htoken

/-- **In the course of an operation a device has at most one match.** -/
theorem Orderly.length_own_during_le_one (h : t.Orderly path) (drive : Drive Session.LinkStep) :
    (t.during path drive).own.length ≤ 1 := by
  by_cases hdrive : drive = .device .listen
  · rw [hdrive, during]
    split
    · exact h.length_own_le_one
    · next hunknown =>
      have hown := h.own_eq_nil (Option.not_isSome_iff_eq_none.mp hunknown)
      rw [own_registering_device, hown]
      exact Nat.le_refl 1
  · exact (t.own_during_sublist path hdrive).length_le.trans h.length_own_le_one

/-! ## Deaf devices -/

/-- A device is deaf if it has a token, and so believes that it listens, but no match. -/
def Deaf (t : Subscription) : Prop := t.token.isSome = true ∧ t.own = []

/-- The device is given a token, and gives it up, only by listening. -/
theorem token_after {drive : Drive Session.LinkStep} (hlisten : drive ≠ .device .listen)
    (hstop : drive ≠ .device .stopListening) (succeeded : Bool) :
    (t.after path succeeded drive).token = t.token := by
  cases drive with
  | device step =>
    cases step with
    | listen => exact absurd rfl hlisten
    | stopListening => exact absurd rfl hstop
    | _ => rfl
  | transport step =>
    cases step with
    | addMatch place name failure =>
      rw [after]
      split <;> rfl
    | _ => rfl
  | deadline id => rfl

theorem own_during_of_isSome (h : t.token.isSome = true) {drive : Drive Session.LinkStep}
    (hstop : drive ≠ .device .stopListening)
    (hremove : ∀ token, drive ≠ .transport (.removeMatch token)) :
    (t.during path drive).own = t.own := by
  unfold during
  split
  · rw [if_pos h]
  · exact absurd rfl hstop
  · exact own_registering_callback ..
  · exact absurd rfl (hremove _)
  · rfl

theorem Deaf.own_during (h : t.Deaf) (path : String) (drive : Drive Session.LinkStep) :
    (t.during path drive).own = [] := by
  by_cases hlisten : drive = .device .listen
  · rw [hlisten, during, if_pos h.1]
    exact h.2
  · exact List.sublist_nil.mp (h.2 ▸ t.own_during_sublist path hlisten)

theorem after_listen_of_isSome (h : t.token.isSome = true) (succeeded : Bool) :
    t.after path succeeded (.device .listen) = t := by
  rw [after, if_pos h]

theorem isSome_token_after (h : t.token.isSome = true) {drive : Drive Session.LinkStep}
    (hdrive : drive ≠ .device .stopListening) (succeeded : Bool) :
    (t.after path succeeded drive).token.isSome = true := by
  by_cases hlisten : drive = .device .listen
  · rw [hlisten, after_listen_of_isSome h]
    exact h
  · rw [token_after hlisten hdrive]
    exact h

/-- **A device that is deaf remains deaf** until it stops listening; to listen again is of no use to
it. -/
theorem Deaf.after (h : t.Deaf) {drive : Drive Session.LinkStep}
    (hdrive : drive ≠ .device .stopListening) (succeeded : Bool) :
    (t.after path succeeded drive).Deaf := by
  refine ⟨isSome_token_after h.1 hdrive succeeded, ?_⟩
  by_cases hlisten : drive = .device .listen
  · rw [hlisten, after_listen_of_isSome h.1]
    exact h.2
  · exact own_after_eq_nil h.2 hlisten succeeded

@[simp] theorem token_after_stopListening (t : Subscription) (path : String) (succeeded : Bool) :
    (t.after path succeeded (.device .stopListening)).token = none := by
  rw [after]
  cases htoken : t.token with
  | none => exact htoken
  | some token => rfl

@[simp] theorem own_after_addMatch (t : Subscription) (path : String) (succeeded : Bool)
    (place name : String) (failure : Option Failure) :
    (t.after path succeeded (.transport (.addMatch place name failure))).own = t.own := by
  rw [after]
  split
  · exact own_registering_callback ..
  · rfl

/-- A device that listens has a match then, unless it had a token already or got none. -/
theorem Deaf.of_after_listen {succeeded : Bool}
    (h : (t.after path succeeded (.device .listen)).Deaf) : t.Deaf := by
  by_cases hknown : t.token.isSome = true
  · rwa [after_listen_of_isSome hknown] at h
  obtain ⟨htoken, hown⟩ := h
  rw [Subscription.after, if_neg hknown] at htoken hown
  split at hown
  · have hregistered : (t.registering path .device).own = [] := hown
    rw [own_registering_device] at hregistered
    exact absurd hregistered (List.append_ne_nil_of_right_ne_nil _ (List.cons_ne_nil _ _))
  · next hfailed =>
    rw [if_neg hfailed] at htoken
    exact absurd htoken hknown

/-- **A device becomes deaf** when the link is stopped while it has a token, unless its match is
removed from outside. -/
theorem Deaf.before {succeeded : Bool} {drive : Drive Session.LinkStep}
    (h : (t.after path succeeded drive).Deaf)
    (hremove : ∀ token, drive ≠ .transport (.removeMatch token)) :
    drive ≠ .device .stopListening ∧
      (t.Deaf ∨ drive = .transport .stop ∧ t.token.isSome = true) := by
  have hstop : drive ≠ .device .stopListening := by
    rintro rfl
    obtain ⟨htoken, -⟩ := h
    rw [token_after_stopListening] at htoken
    exact nomatch htoken
  refine ⟨hstop, ?_⟩
  by_cases hlisten : drive = .device .listen
  · rw [hlisten] at h
    exact .inl h.of_after_listen
  obtain ⟨htoken, hown⟩ := h
  rw [token_after hlisten hstop] at htoken
  cases drive with
  | device step =>
    cases step with
    | listen => exact absurd rfl hlisten
    | stopListening => exact absurd rfl hstop
    | _ => exact .inl ⟨htoken, hown⟩
  | transport step =>
    cases step with
    | stop => exact .inr ⟨rfl, htoken⟩
    | addMatch place name failure =>
      rw [own_after_addMatch] at hown
      exact .inl ⟨htoken, hown⟩
    | removeMatch token => exact absurd rfl (hremove token)
    | _ => exact .inl ⟨htoken, hown⟩
  | deadline id => exact .inl ⟨htoken, hown⟩

theorem Orderly.exists_own_eq (h : t.Orderly path) (htoken : t.token.isSome = true)
    (hdeaf : ¬t.Deaf) : ∃ m, t.own = [m] ∧ m.path = path := by
  have hne : t.own ≠ [] := fun hnil ↦ hdeaf ⟨htoken, hnil⟩
  obtain ⟨m, hm⟩ := List.length_eq_one_iff.mp
    (Nat.le_antisymm h.length_own_le_one (List.length_pos_iff.mpr hne))
  obtain ⟨hmem, hisOwn⟩ := List.mem_filter.mp (hm ▸ List.mem_singleton_self m : m ∈ t.own)
  exact ⟨m, hm, (h.own m hmem hisOwn).2⟩

end Subscription

end GattPeer
