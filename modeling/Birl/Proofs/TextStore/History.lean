import Birl.Proofs.TextStore
import Birl.Proofs.Trace

/-!
# What happens to a text store

A new store is called any number of times: to add texts, and to use the text under an id.
The ids that it gives out are all different, the answer to a use of an id depends on the text
that was added under it and on the successful uses of the same id since, and an id that was
taken is gone for good (`ids_never_reused`). A call is answered in one of three ways
(`Answers`), and every law of a run is read off them.
-/

namespace Birl.TextStore

inductive Use where
  | get
  | set (t : Text)
  | append (t : Text)
  | take
  deriving DecidableEq, Repr

inductive Call where
  | add (t : Text)
  | use (id : Nat) (u : Use)
  deriving DecidableEq, Repr

inductive Reply where
  | id (id : Nat)
  | text (t : Text)
  | done
  deriving DecidableEq, Repr

/-- The reply to a use and the store after it, or a fault. -/
def use (s : TextStore) (id : Nat) : Use → Except Fault (Reply × TextStore)
  | .get => (s.get id).map fun t => (.text t, s)
  | .set t => (s.set id t).map fun s => (.done, s)
  | .append t => (s.append id t).map fun s => (.done, s)
  | .take => (s.take id).map fun (t, s) => (.text t, s)

/-- The answer to a call and the store after it, which is the same one if the call fails. -/
def call (s : TextStore) : Call → Except Fault Reply × TextStore
  | .add t => (.ok (.id (s.add t).1), (s.add t).2)
  | .use id u =>
    match s.use id u with
    | .ok (reply, s) => (.ok reply, s)
    | .error fault => (.error fault, s)

-- ---------------------------------------------------------------------------
-- What a call does
-- ---------------------------------------------------------------------------

namespace Use

def reply : Use → Text → Reply
  | get, t | take, t => .text t
  | set _, _ | append _, _ => .done

/-- The text as a use leaves it. -/
def edit : Use → Text → Text
  | set new, _ => new
  | append more, t => t ++ more
  | get, t | take, t => t

def result : Use → Text → Option Text
  | take, _ => none
  | u, t => some (u.edit t)

theorem result_of_ne {u : Use} (h : u ≠ take) (t : Text) : u.result t = some (u.edit t) := by
  cases u with
  | take => exact absurd rfl h
  | _ => rfl

end Use

section
variable {s s' : TextStore} {id : Nat} {t : Text} {u : Use}

theorem size_modify {f : Text → Text} (h : s.modify id f = .ok s') : s'.size = s.size := by
  unfold modify at h
  split at h
  · cases h
    simpa [size] using congrArg List.length (keys_modifyEntry id f s.entries)
  · cases h

theorem size_take (h : s.take id = .ok (t, s')) : s'.size + 1 = s.size := by
  unfold take at h
  split at h
  · rename_i hf
    cases h
    have hmem : id ∈ s.entries.map Prod.fst := mem_of_lookup hf
    have hkeys := congrArg List.length (keys_removeEntry id s.entries)
    have hpos := List.length_pos_of_mem hmem
    rw [List.length_erase_of_mem hmem, List.length_map, List.length_map] at hkeys
    rw [List.length_map] at hpos
    show (removeEntry id s.entries).length + 1 = s.entries.length
    rw [hkeys, Nat.sub_add_cancel hpos]
  · cases h

/-- The ways in which a call is answered. -/
inductive Answers (s : TextStore) : Call → Except Fault Reply → TextStore → Prop
  | added (t : Text) : Answers s (.add t) (.ok (.id s.next)) (s.add t).2
  | used {id : Nat} {t : Text} {u : Use} {s' : TextStore} (text : s.find? id = some t)
      (wellFormed : s'.WellFormed) (next : s'.next = s.next)
      (texts : ∀ i, s'.find? i = if i = id then u.result t else s.find? i)
      (size : s'.size + (if u = .take then 1 else 0) = s.size) :
      Answers s (.use id u) (.ok (u.reply t)) s'
  | missed {id : Nat} (u : Use) (text : s.find? id = none) :
      Answers s (.use id u) (.error (.missingText id)) s

theorem use_ok (hs : s.WellFormed) (hf : s.find? id = some t) (u : Use) :
    ∃ s', s.use id u = .ok (u.reply t, s') ∧ s'.WellFormed ∧ s'.next = s.next ∧
      (∀ i, s'.find? i = if i = id then u.result t else s.find? i) ∧
      s'.size + (if u = .take then 1 else 0) = s.size := by
  cases u with
  | get =>
    have hget : s.get id = .ok t := by simp [get, hf]
    refine ⟨s, by simp [use, hget, Except.map, Use.reply], hs, rfl, fun i => ?_, rfl⟩
    split
    · rename_i hi
      rw [hi]
      exact hf
    · rfl
  | set new =>
    obtain ⟨s', hset, hwf, hnext, htexts⟩ := modify_ok hs (fun _ => new) hf
    have huse : s.use id (.set new) = .ok (.done, s') := by simp [use, set, hset, Except.map]
    exact ⟨s', huse, hwf, hnext, htexts, size_modify hset⟩
  | append more =>
    obtain ⟨s', happend, hwf, hnext, htexts⟩ := modify_ok hs (fun old => old ++ more) hf
    have huse : s.use id (.append more) = .ok (.done, s') := by
      simp [use, append, happend, Except.map]
    exact ⟨s', huse, hwf, hnext, htexts, size_modify happend⟩
  | take =>
    obtain ⟨s', htake, hwf, hnext, htexts⟩ := take_ok hs hf
    have huse : s.use id .take = .ok (.text t, s') := by simp [use, htake, Except.map]
    exact ⟨s', huse, hwf, hnext, htexts, size_take htake⟩

theorem use_missed (hf : s.find? id = none) (u : Use) : s.use id u = .error (.missingText id) := by
  cases u <;> simp [use, get, set, append, modify, take, hf, Except.map]

theorem answer_of_find (hs : s.WellFormed) (hf : s.find? id = some t) (u : Use) :
    (s.call (.use id u)).1 = .ok (u.reply t) := by
  obtain ⟨s', huse, -⟩ := use_ok hs hf u
  simp only [call, huse]

theorem answers_call (hs : s.WellFormed) (c : Call) : Answers s c (s.call c).1 (s.call c).2 := by
  cases c with
  | add t => exact .added t
  | use id u =>
    cases hf : s.find? id with
    | some t =>
      obtain ⟨s', huse, hwf, hnext, htexts, hsize⟩ := use_ok hs hf u
      simp only [call, huse]
      exact .used hf hwf hnext htexts hsize
    | none =>
      simp only [call, use_missed hf]
      exact .missed u hf

-- ---------------------------------------------------------------------------
-- Logs
-- ---------------------------------------------------------------------------

abbrev Exchange := Call × Except Fault Reply

def given (log : List Exchange) : List Nat :=
  log.filterMap fun
    | (.add _, .ok (.id id)) => some id
    | _ => none

def taken (log : List Exchange) : List Nat :=
  log.filterMap fun
    | (.use id .take, .ok _) => some id
    | _ => none

def uses (id : Nat) (log : List Exchange) : List Use :=
  log.filterMap fun
    | (.use i u, .ok _) => if i = id then some u else none
    | _ => none

/-- A text after uses of it, of which all but those that set and append leave it alone. -/
def edited (t : Text) (us : List Use) : Text := us.foldl (fun t u => u.edit t) t

theorem uses_cons (id : Nat) (e : Exchange) (log : List Exchange) :
    uses id (e :: log) = uses id [e] ++ uses id log :=
  List.filterMap_append (l := [e])

variable {c : Call} {a : Except Fault Reply}

theorem Answers.wellFormed (h : Answers s c a s') (hs : s.WellFormed) : s'.WellFormed := by
  cases h with
  | added t => exact hs.add t
  | used _ hwf => exact hwf
  | missed => exact hs

theorem Answers.next_le (h : Answers s c a s') : s.next ≤ s'.next := by
  cases h with
  | added t => exact Nat.le_succ _
  | used _ _ hnext => exact Nat.le_of_eq hnext.symm
  | missed => exact Nat.le_refl _

/-- A text that is not taken is edited by the uses of its own id alone. -/
theorem Answers.live (h : Answers s c a s') (hid : id < s.next) (hf : s.find? id = some t)
    (hlive : .take ∉ uses id [(c, a)]) : s'.find? id = some (edited t (uses id [(c, a)])) := by
  cases h with
  | added new =>
    rw [find?_add, if_neg (Nat.ne_of_lt hid), hf]
    rfl
  | @used i old u _ htext _ _ htexts =>
    rw [htexts]
    by_cases hi : i = id
    · subst hi
      obtain rfl : old = t := Option.some.inj (htext.symm.trans hf)
      have huses : uses i [(.use i u, .ok (u.reply old))] = [u] := by simp [uses]
      rw [huses] at hlive ⊢
      rw [if_pos rfl, Use.result_of_ne fun hu => hlive (by simp [hu])]
      rfl
    · have huses : uses id [(.use i u, .ok (u.reply old))] = [] := by simp [uses, hi]
      rw [huses, if_neg (Ne.symm hi), hf]
      rfl
  | missed u =>
    rw [hf]
    rfl

/-- An id that was given out and is not in the store misses its text, and does not come back. -/
theorem Answers.gone (h : Answers s c a s') (hid : id < s.next) (hf : s.find? id = none) :
    s'.find? id = none ∧ ∀ u, c = .use id u → a = .error (.missingText id) := by
  cases h with
  | added new =>
    rw [find?_add, if_neg (Nat.ne_of_lt hid)]
    exact ⟨hf, nofun⟩
  | @used i old u _ htext _ _ htexts =>
    have hi : i ≠ id := by
      rintro rfl
      rw [hf] at htext
      cases htext
    rw [htexts, if_neg (Ne.symm hi)]
    refine ⟨hf, ?_⟩
    rintro u' ⟨rfl, -⟩
    exact absurd rfl hi
  | missed u =>
    refine ⟨hf, ?_⟩
    rintro u' ⟨rfl, -⟩
    rfl

theorem Answers.range (h : Answers s c a s') :
    List.range s'.next = List.range s.next ++ given [(c, a)] := by
  cases h with
  | added t => exact List.range_succ
  | used _ _ hnext =>
    rw [hnext]
    exact (List.append_nil _).symm
  | missed => exact (List.append_nil _).symm

theorem Answers.count (h : Answers s c a s') :
    s'.size + (taken [(c, a)]).length + s.next = s.size + s'.next := by
  cases h with
  | added t =>
    show s.size + 1 + s.next = s.size + (s.next + 1)
    omega
  | @used id t u _ _ _ hnext _ hsize =>
    rw [hnext, ← hsize]
    cases u <;> rfl
  | missed u => cases u <;> rfl

-- ---------------------------------------------------------------------------
-- Runs
-- ---------------------------------------------------------------------------

theorem wellFormed_after (hs : s.WellFormed) (calls : List Call) :
    (Trace.after call s calls).WellFormed :=
  Trace.induct call (P := fun _ (s : TextStore) => s.WellFormed) hs
    (fun _ _ c hs => (answers_call hs c).wellFormed hs) calls

theorem find?_after (hs : s.WellFormed) (hf : s.find? id = some t) (calls : List Call)
    (hlive : .take ∉ uses id (Trace.log call s calls)) :
    (Trace.after call s calls).find? id = some (edited t (uses id (Trace.log call s calls))) := by
  -- the text changes from call to call, so it is generalized with the store
  induction calls generalizing s t with
  | nil => exact hf
  | cons c rest ih =>
    have hanswers := answers_call hs c
    rw [Trace.log, uses_cons, List.mem_append, not_or] at hlive
    have hnow := hanswers.live (hs.find_lt hf) hf hlive.1
    rw [Trace.log, uses_cons, edited, List.foldl_append]
    exact ih (hanswers.wellFormed hs) hnow hlive.2

theorem gone_for_good (hs : s.WellFormed) (hid : id < s.next) (hf : s.find? id = none)
    (calls : List Call) (hmem : (.use id u, a) ∈ Trace.log call s calls) :
    a = .error (.missingText id) := by
  induction calls generalizing s with
  | nil => cases hmem
  | cons c rest ih =>
    have hanswers := answers_call hs c
    obtain ⟨hgone, hanswer⟩ := hanswers.gone hid hf
    rcases List.mem_cons.mp hmem with hnow | hlater
    · obtain ⟨rfl, rfl⟩ := Prod.mk.inj hnow
      exact hanswer u rfl
    · exact ih (hanswers.wellFormed hs) (Nat.lt_of_lt_of_le hid hanswers.next_le) hgone hlater

/-- Ids are given out in order, and each of them is in the store or was taken. -/
theorem given_log (calls : List Call) :
    given (Trace.log call {} calls) = List.range (Trace.after call {} calls).next ∧
      (Trace.after call {} calls).size + (taken (Trace.log call {} calls)).length =
        (Trace.after call {} calls).next := by
  refine (Trace.induct call (P := fun log s => s.WellFormed ∧
    given log = List.range s.next ∧ s.size + (taken log).length = s.next)
    ⟨wellFormed_empty, rfl, rfl⟩ ?_ calls).2
  rintro log s c ⟨hs, hgiven, hsize⟩
  have hanswers := answers_call hs c
  have hcount := hanswers.count
  refine ⟨hanswers.wellFormed hs, ?_, ?_⟩
  · rw [hanswers.range, ← hgiven]
    exact List.filterMap_append
  · rw [taken, List.filterMap_append, List.length_append]
    change s.size + (taken log).length = _ at hsize
    change _ + ((taken log).length + (taken [(c, (s.call c).1)]).length) = _
    omega

end

-- ---------------------------------------------------------------------------
-- The history of a new store
-- ---------------------------------------------------------------------------

/-- The calls of a new store, each with its answer. -/
abbrev history (calls : List Call) : List Exchange := Trace.log call {} calls

/-- The store after these calls. -/
abbrev reached (calls : List Call) : TextStore := Trace.after call {} calls

/-- For any calls of a new store, so few that the ids do not outgrow 64 bits: the ids that
are given out are all different; any use of an id succeeds until the id is taken and is
answered from the text that was added under it, as the successful uses of this id have
edited it; from then on every use fails; a call that fails misses a text and changes
nothing; and the store has one text for each that was added and not taken. -/
theorem ids_never_reused (calls : List Call) (hcalls : calls.length < UInt64.size) :
    ((given (history calls)).Nodup ∧ ∀ id ∈ given (history calls), id < UInt64.size) ∧
      (∀ (before : List Exchange) (t : Text) (id : Nat) (since : List Exchange) (u : Use)
          (a : Except Fault Reply) (later : List Exchange),
        history calls = before ++ (.add t, .ok (.id id)) :: (since ++ (.use id u, a) :: later) →
        .take ∉ uses id since → a = .ok (u.reply (edited t (uses id since)))) ∧
      (∀ (before : List Exchange) (id : Nat) (reply : Reply) (since : List Exchange) (u : Use)
          (a : Except Fault Reply),
        history calls = before ++ (.use id .take, .ok reply) :: since →
        (.use id u, a) ∈ since → a = .error (.missingText id)) ∧
      (∀ (c : Call) (fault : Fault), ((reached calls).call c).1 = .error fault →
        fault.kind = .storageMiss ∧ ((reached calls).call c).2 = reached calls) ∧
      (reached calls).size + (taken (history calls)).length = (given (history calls)).length := by
  obtain ⟨hgiven, hsize⟩ := given_log calls
  have hwf (calls : List Call) : (reached calls).WellFormed := wellFormed_after wellFormed_empty calls
  refine ⟨⟨?_, ?_⟩, ?_, ?_, ?_, ?_⟩
  · rw [hgiven]
    exact List.nodup_range
  · intro id hid
    have hlen : (given (history calls)).length ≤ (history calls).length := List.length_filterMap_le _ _
    rw [hgiven, List.length_range, Trace.length_log] at hlen
    rw [hgiven, List.mem_range] at hid
    omega
  · intro before t id since u a later hlog hlive
    -- the store that the text was added to, and the calls from there up to the use
    obtain ⟨calls₁, rest, rfl, hid, hrest⟩ := Trace.log_split hlog
    obtain ⟨calls₂, -, rfl, rfl, -⟩ := Trace.log_split hrest
    obtain rfl : id = (reached calls₁).next := Reply.id.inj (Except.ok.inj hid)
    have hadded := (hwf calls₁).add t
    have hfound : ((reached calls₁).add t).2.find? (reached calls₁).next = some t := by simp [find?_add]
    exact answer_of_find (wellFormed_after hadded calls₂) (find?_after hadded hfound calls₂ hlive) u
  · intro before id reply since u a hlog hmem
    obtain ⟨calls₁, rest, rfl, hreply, rfl⟩ := Trace.log_split hlog
    have hanswers := answers_call (hwf calls₁) (.use id .take)
    have hnext := hanswers.wellFormed (hwf calls₁)
    generalize ((reached calls₁).call (.use id .take)).1 = a' at hreply hanswers
    generalize ((reached calls₁).call (.use id .take)).2 = s' at hanswers hnext hmem
    cases hanswers with
    | used htext _ hsame htexts =>
      have hid := (hwf calls₁).find_lt htext
      exact gone_for_good hnext (hsame ▸ hid) (by simp [htexts, Use.result]) rest hmem
    | missed => cases hreply
  · intro c fault hfault
    have hanswers := answers_call (hwf calls) c
    rw [hfault] at hanswers
    generalize ((reached calls).call c).2 = s' at hanswers ⊢
    cases hanswers with
    | missed => exact ⟨rfl, rfl⟩
  · rw [hsize, hgiven, List.length_range]

/-- Two texts in turn, of which one is appended to and the other replaced and taken, before a
third comes. -/
def interleaved : List Call :=
  [.add "monstro", .add "birl", .use 0 (.append "!"), .use 1 (.set "bambam"), .use 1 .take,
    .add "x", .use 1 (.set "y"), .use 0 .get]

theorem ids_never_reused_interleaved :
    interleaved.length < UInt64.size ∧ (given (history interleaved)).Nodup ∧
      ((reached (interleaved.take 7)).call (.use 0 .get)).1 = .ok (.text "monstro!") ∧
      ((reached (interleaved.take 6)).call (.use 1 (.set "y"))).1 = .error (.missingText 1) ∧
      (reached interleaved).size + 1 = 3 := by
  have hfew : interleaved.length < UInt64.size := by decide
  obtain ⟨⟨hnodup, -⟩, hanswers, hgone, -, hsize⟩ := ids_never_reused interleaved hfew
  refine ⟨hfew, hnodup, ?_, ?_, hsize⟩
  · exact hanswers [] "monstro" 0 (((history interleaved).drop 1).take 6) .get _ [] rfl (by decide)
  · exact hgone ((history interleaved).take 4) 1 _ ((history interleaved).drop 5) (.set "y") _ rfl
      (.tail _ (.head _))

end Birl.TextStore
