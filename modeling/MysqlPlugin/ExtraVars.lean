import MysqlPlugin.Calls
import MysqlPlugin.Delivery
import MysqlPlugin.Slot

set_option autoImplicit false

/-! # Extra variables on their way to the callback

The array a script passes to a threaded `mysql_query_array` becomes a C string, waits in the two
queues and becomes an array again for `OnMysqlQueryArray`. On the way nobody touches the text: a
buffer that is held anywhere has the text it was allocated with (`System.holdsOnly_run`). What is
lost is lost in the two conversions, and they keep exactly the non-empty arrays of character values
(`Natives.pushed_textAt_iff`, `System.extra_round_trip_iff`). -/

namespace MysqlPlugin

open Prog Natives

/-! ## The two conversions -/

namespace Natives

/-- The cell `amx_PushString` stores a character as: that of a `char`, which may be signed. -/
def charCell (signed : Bool) (c : Char) : ℤ :=
  if signed ∧ 128 ≤ c.toNat then (c.toNat : ℤ) - 256 else c.toNat

/-- The array `amx_PushString` gives to a callback. -/
def pushed (signed : Bool) (text : String) : List Cell := text.toList.map (charCell signed)

/-- The value of a `char` other than the terminator. -/
def IsChar (signed : Bool) (x : ℤ) : Prop :=
  x ≠ 0 ∧ if signed then -128 ≤ x ∧ x < 128 else 0 ≤ x ∧ x < 256

instance (signed : Bool) (x : ℤ) : Decidable (IsChar signed x) :=
  match signed with
  | true => inferInstanceAs (Decidable (x ≠ 0 ∧ (-128 ≤ x ∧ x < 128)))
  | false => inferInstanceAs (Decidable (x ≠ 0 ∧ (0 ≤ x ∧ x < 256)))

/-- A cell survives the two conversions if it is the value of a `char`. -/
theorem charCell_byte_iff (signed : Bool) (x : ℤ) :
    ((x % 256).toNat ≠ 0 ∧ charCell signed (Char.ofNat (x % 256).toNat) = x) ↔ IsChar signed x := by
  have hlt : (x % 256).toNat < 256 := by omega
  rw [charCell, toNat_ofNat hlt, IsChar]
  cases signed with
  | false =>
      simp only [Bool.false_eq_true, false_and, if_false]
      omega
  | true =>
      simp only [true_and, if_true]
      split <;> omega

/-- The bytes before the terminator, as cells again. -/
theorem pushed_bytes_iff (signed : Bool) (xs : List Cell) :
    (((xs.map fun x => (x % 256).toNat).takeWhile (· ≠ 0)).map Char.ofNat).map (charCell signed) = xs
      ↔ ∀ x ∈ xs, IsChar signed x := by
  induction xs with
  | nil => simp
  | cons x xs ih =>
      rw [List.forall_mem_cons, ← ih, ← charCell_byte_iff, List.map_cons, List.takeWhile_cons]
      by_cases hb : (x % 256).toNat = 0
      · simp [hb]
      · simp [hb]

/-- **The two conversions** give an array back exactly if it is not empty and holds only character
    values. -/
theorem pushed_textAt_iff (signed : Bool) (cells : List Cell) :
    pushed signed (textAt cells) = cells.takeWhile (· ≠ 0) ↔
      cells.takeWhile (· ≠ 0) ≠ [] ∧ ∀ x ∈ cells.takeWhile (· ≠ 0), IsChar signed x := by
  rw [textAt]
  cases hx : cells.takeWhile (· ≠ 0) with
  | nil => simp [pushed]
  | cons x xs =>
      rw [if_neg (by simp), pushed, cString, String.toList_ofList, hx, pushed_bytes_iff]
      simp

end Natives

/-! ## Where extra variables are held -/

/-- An entry in one of the two queues of the object holds the buffer. -/
def MySQL.HoldsExtra (o : MySQL) (x : CharPtr) : Prop :=
  (∃ q ∈ o.queryQueue, q.extraVars = some x) ∨ ∃ t ∈ o.threadQueue, t.extraVars = some x

/-- A local copy of the worker holds it. -/
def WorkerStmt.HoldsExtra (x : CharPtr) : WorkerStmt → Prop
  | .test => False
  | .setParsing q t | .push q t => q.extraVars = some x ∨ t.extraVars = some x
  | .submit q | .executing q _ | .logExecuted q | .branch q | .clearParsing q | .callError q =>
    q.extraVars = some x
  | .inError q | .logResult q | .pop q => q.extraVars = some x

/-- The local copy of `ProcessTick` holds it. -/
def TickStmt.HoldsExtra (x : CharPtr) : TickStmt → Prop
  | .test => False
  | .each t _ | .inCallback t _ _ | .pop t | .clear t => t.extraVars = some x

theorem WorkerStmt.Does.holdsExtra {lib : Answers} {src : ℕ} {o o' : MySQL} {stmt : WorkerStmt}
    {es : List Event} {place : Option (ℕ × WorkerStmt)} (hd : stmt.Does lib src o es o' place)
    {x : CharPtr} (hx : o'.HoldsExtra x ∨ ∃ p, place = some p ∧ p.2.HoldsExtra x) :
    o.HoldsExtra x ∨ stmt.HoldsExtra x := by
  cases hd with
  | skip =>
      rcases hx with hx | ⟨p, hp, -⟩
      · exact .inl hx
      · cases hp
  | copy q rest hq hp =>
      rcases hx with hx | ⟨p, ⟨⟩, hx⟩
      · exact .inl hx
      · exact .inl (.inl ⟨q, by simp [hq], hx⟩)
  | submit | answer | logExecuted | failed | setParsing | clearParsing | report | returned
  | logResult =>
      rcases hx with hx | ⟨p, ⟨⟩, hx⟩
      · exact .inl hx
      · exact .inr hx
  | succeeded q hs =>
      rcases hx with hx | ⟨p, ⟨⟩, hx | hx⟩
      · exact .inl hx
      · exact .inr hx
      · simp only [QueryInfo.toThreadInfo] at hx
        split at hx
        · exact .inr hx
        · simp at hx
  | push q t =>
      rcases hx with (hx | ⟨t', ht', hx⟩) | ⟨p, ⟨⟩, hx⟩
      · exact .inl (.inl hx)
      · rcases List.mem_append.1 ht' with ht' | ht'
        · exact .inl (.inr ⟨t', ht', hx⟩)
        · rw [List.mem_singleton.1 ht'] at hx
          exact .inr (.inr hx)
      · exact .inr (.inl hx)
  | pop q front rest hq =>
      rcases hx with (⟨q', hq', hx⟩ | hx) | ⟨p, hp, -⟩
      · exact .inl (.inl ⟨q', by simp [hq, hq'], hx⟩)
      · exact .inl (.inr hx)
      · cases hp

theorem TickStmt.Does.holdsExtra {pAmx : List AMX} {src : ℕ} {v v' : Option MySQL} {stmt : TickStmt}
    {es : List Event} {place : Option (ℕ × TickStmt)} (hd : stmt.Does pAmx src v es v' place)
    {x : CharPtr}
    (hx : (∃ o, v' = some o ∧ o.HoldsExtra x) ∨ ∃ p, place = some p ∧ p.2.HoldsExtra x) :
    (∃ o, v = some o ∧ o.HoldsExtra x) ∨ stmt.HoldsExtra x := by
  cases hd with
  | skip =>
      rcases hx with hx | ⟨p, hp, -⟩
      · exact .inl hx
      · cases hp
  | take o t rest hq hp =>
      rcases hx with hx | ⟨p, ⟨⟩, hx⟩
      · exact .inl hx
      · exact .inl ⟨o, rfl, .inr ⟨t, by simp [hq], hx⟩⟩
  | done | pass | exec =>
      rcases hx with hx | ⟨p, ⟨⟩, hx⟩
      · exact .inl hx
      · exact .inr hx
  | returned o t amx scripts =>
      rcases hx with hx | ⟨p, ⟨⟩, hx⟩
      · exact .inl hx
      · simp only [HoldsExtra, ThreadInfo.afterCallback] at hx
        split at hx
        · simp at hx
        · exact .inr hx
  | pop o t front rest hq =>
      rcases hx with ⟨_, ⟨⟩, hx | ⟨t', ht', hx⟩⟩ | ⟨p, ⟨⟩, hx⟩
      · exact .inl ⟨o, rfl, .inl hx⟩
      · exact .inl ⟨o, rfl, .inr ⟨t', by simp [hq, ht'], hx⟩⟩
      · exact .inr hx
  | clear o t =>
      rcases hx with ⟨_, ⟨⟩, hx⟩ | ⟨p, hp, -⟩
      · exact .inl ⟨o, rfl, hx⟩
      · cases hp

/-- A native holds new ones only for the query it accepts. -/
theorem MySQL.Change.holdsExtra {name : NativeName} {params : List Cell} {lib : Answers}
    {o o' : MySQL} {es : List Event} (hc : o.Change name params lib es o') {x : CharPtr}
    (hx : o'.HoldsExtra x) :
    o.HoldsExtra x ∨ ∃ c q, .accepted c q ∈ history es ∧ q.extraVars = some x := by
  cases hc with
  | observed h =>
      rw [h.same] at hx
      exact .inl hx
  | connected | executed | stored | freed => exact .inl hx
  | accepted q hn hr hm hs hclient =>
      rcases hx with ⟨q', hq', hx⟩ | hx
      · rcases List.mem_append.1 hq' with hq' | hq'
        · exact .inl (.inl ⟨q', hq', hx⟩)
        · rw [List.mem_singleton.1 hq'] at hx
          exact .inr ⟨_, q, by rw [hs]; exact List.mem_singleton.2 rfl, hx⟩
      · exact .inl (.inr hx)

namespace Slot

/-- The handle holds the buffer, in a queue or in a local copy of one of the two threads. -/
def HoldsExtra (v : Slot) (x : CharPtr) : Prop :=
  (∃ o, v.object = some o ∧ o.HoldsExtra x) ∨
    (∃ p, v.worker = some p ∧ p.2.HoldsExtra x) ∨ ∃ p, v.tick = some p ∧ p.2.HoldsExtra x

theorem Step.holdsExtra {h : ℕ} {a : Action} {v v' : Slot} {hs : List Event}
    (hstep : Step h a v hs v') {x : CharPtr} (hx : v'.HoldsExtra x) :
    v.HoldsExtra x ∨ ∃ c q, .accepted c q ∈ hs ∧ q.extraVars = some x := by
  cases hstep with
  | other _ _ hsame =>
      unfold HoldsExtra at *
      rw [hsame.object, hsame.worker, hsame.tick] at hx
      exact .inl hx
  | workerEnter lib ha o t n =>
      rcases hx with hx | ⟨p, ⟨⟩, hx⟩ | hx
      · exact .inl (.inl hx)
      · cases hx
      · exact .inl (.inr (.inr hx))
  | worker lib ha o o' src stmt place _ t n hd =>
      rcases hx with ⟨_, ⟨⟩, hx⟩ | hx | hx
      · rcases hd.holdsExtra (.inl hx) with hx | hx
        · exact .inl (.inl ⟨o, rfl, hx⟩)
        · exact .inl (.inr (.inl ⟨_, rfl, hx⟩))
      · rcases hd.holdsExtra (.inr hx) with hx | hx
        · exact .inl (.inl ⟨o, rfl, hx⟩)
        · exact .inl (.inr (.inl ⟨_, rfl, hx⟩))
      · exact .inl (.inr (.inr hx))
  | tickEnter ha o w n =>
      rcases hx with hx | hx | ⟨p, ⟨⟩, hx⟩
      · exact .inl (.inl hx)
      · exact .inl (.inr (.inl hx))
      · cases hx
  | tick ha pAmx v₀ v₁ src stmt place _ w n hd =>
      rcases hx with hx | hx | hx
      · rcases hd.holdsExtra (.inl hx) with hx | hx
        · exact .inl (.inl hx)
        · exact .inl (.inr (.inr ⟨_, rfl, hx⟩))
      · exact .inl (.inr (.inl hx))
      · rcases hd.holdsExtra (.inr hx) with hx | hx
        · exact .inl (.inl hx)
        · exact .inl (.inr (.inr ⟨_, rfl, hx⟩))
  | native thread name amx params lib ha hh o o' es w t hr n n' hn hc =>
      rcases hx with ⟨_, ⟨⟩, hx⟩ | hx
      · rcases hc.holdsExtra hx with hx | hx
        · exact .inl (.inl ⟨o, rfl, hx⟩)
        · exact .inr hx
      · exact .inl (.inr hx)
  | opened =>
      rcases hx with ⟨_, ⟨⟩, hx | hx⟩ | hx
      · obtain ⟨q, hq, -⟩ := hx
        cases hq
      · obtain ⟨t, ht, -⟩ := hx
        cases ht
      · exact .inl (.inr hx)
  | closed =>
      rcases hx with ⟨_, ⟨⟩, -⟩ | hx
      exact .inl (.inr hx)

end Slot

/-! ## What a threaded `mysql_query_array` hands over -/

namespace Natives

variable {N : ℕ} {env : Env} {amx : Memory} {params : List Cell} {w w' : World N} {r : Cell}
  {es : List Event}

/-- A call that accepts an entry passed both checks. -/
theorem checked_of_accepted {label : String} {n i : ℕ} {rest : Fin N → Native N Cell}
    (hok : onConnection env params label n i rest w = .ok (r, w', es)) {c : ℕ} {q : QueryInfo}
    (hq : .accepted c q ∈ es) : ∃ h : Fin N, rest h w = .ok (r, w', es) := by
  rw [onConnection, CHECK_PARAMS] at hok
  by_cases hp : param params 0 ≠ n * cellSize
  · rw [if_pos hp] at hok
    cases hok
    simp at hq
  · rw [if_neg hp] at hok
    obtain ⟨h, o, -, -, ⟨-, hrun⟩ | ⟨-, herr⟩⟩ := check_eq_ok hok
    · exact ⟨h, hrun⟩
    · -- `Error` only tells
      obtain ⟨o₁, o', -, hm, -⟩ := call_eq_ok.1 herr
      have hplain := (MySQL.idle_Error _ _ _ _ _ _ _ hm).2 _ hq
      simp [Event.isPlain] at hplain

/-- An entry of `mysql_query` brings no extra variables. -/
theorem extraVars_of_query (hok : n_mysql_query env amx params w = .ok (r, w', es)) {c : ℕ}
    {q : QueryInfo} (hq : .accepted c q ∈ es) : q.extraVars = none := by
  obtain ⟨h, hrun⟩ := checked_of_accepted hok hq
  have hin : .accepted c q ∈ history es := (System.mem_history rfl).2 hq
  obtain ⟨query, w₁, es₁, es₂, hget, hcall, rfl⟩ := bind_eq_ok.1 hrun
  rw [run_GetString] at hget
  cases hget
  obtain ⟨o, o', -, hm, -⟩ := call_eq_ok.1 hcall
  by_cases hr : param params 2 = -1
  · rw [hr] at hm
    have hnone := (MySQL.executed_of_query_sync _ _ _ hm).2.1
    simp [hnone, history_cons, Event.isHistory, Event.about] at hin
  · rw [MySQL.run_query_threaded _ _ _ _ hr] at hm
    cases hm
    simp [history_cons, Event.isHistory, Event.about] at hin
    rw [hin.2]

/-- An entry of `mysql_query_array` brings the buffer that `GetString` just allocated for the
    array. -/
theorem extraVars_of_query_array (hok : n_mysql_query_array env amx params w = .ok (r, w', es))
    {c : ℕ} {q : QueryInfo} (hq : .accepted c q ∈ es) :
    q.type = .TYPE_ARRAY ∧ ∃ x, q.extraVars = some x ∧ x.text = textAt (amx (param params 3)) ∧
      w.created ≤ x.ptr ∧ x.ptr < w'.created := by
  obtain ⟨h, hrun⟩ := checked_of_accepted hok hq
  have hin : .accepted c q ∈ history es := (System.mem_history rfl).2 hq
  obtain ⟨query, w₁, es₁, es₂, hget, hrest, rfl⟩ := bind_eq_ok.1 hrun
  rw [run_GetString] at hget
  cases hget
  obtain ⟨extra, w₂, es₃, es₄, hget, hcall, rfl⟩ := bind_eq_ok.1 hrest
  rw [run_GetString] at hget
  cases hget
  obtain ⟨o, o', -, hm, rfl⟩ := call_eq_ok.1 hcall
  by_cases hr : param params 2 = -1
  · rw [hr] at hm
    have hnone := (MySQL.executed_of_query_array_sync _ _ _ hm).2.1
    simp [hnone, history_cons, Event.isHistory, Event.about] at hin
  · rw [MySQL.run_query_array_threaded _ _ _ _ hr] at hm
    cases hm
    simp [history_cons, Event.isHistory, Event.about] at hin
    rw [hin.2]
    exact ⟨rfl, _, rfl, rfl, Nat.le_succ _, Nat.lt_succ_self _⟩

/-- Whatever native accepts an entry, the extra variables it brings are of this kind. -/
theorem extraVars_of_accepted {name : NativeName}
    (hok : name.function env amx params w = .ok (r, w', es)) {c : ℕ} {q : QueryInfo}
    (hq : .accepted c q ∈ es) {x : CharPtr} (hx : q.extraVars = some x) :
    x.text = textAt (amx (param params 3)) ∧ w.created ≤ x.ptr ∧ x.ptr < w'.created := by
  have hname := ((effect_function env amx params name _ _ _ _ hok).change.accepts
    ((System.mem_history rfl).2 hq)).1
  cases name with
  | mysql_query =>
      rw [extraVars_of_query hok hq] at hx
      cases hx
  | mysql_query_array =>
      obtain ⟨-, x', hx', hspec⟩ := extraVars_of_query_array hok hq
      rw [hx'] at hx
      cases hx
      exact hspec
  | _ => cases hname

end Natives

/-! ## No buffer changes its text -/

theorem Slot.Step.thread_of_accepted {h : ℕ} {a : Action} {v v' : Slot} {hs : List Event}
    (hstep : Step h a v hs v') {c : ℕ} {q : QueryInfo} (hq : .accepted c q ∈ hs) :
    ∃ thread name amx params lib, a = .native thread name amx params lib := by
  cases hstep with
  | native thread name amx params lib ha => exact ⟨thread, name, amx, params, lib, ha⟩
  | other | workerEnter | tickEnter => cases hq
  | opened | closed => simp at hq
  | worker lib ha o o' src stmt place _ t n hd => cases hd <;> simp at hq
  | tick ha pAmx v₀ v₁ src stmt place _ w n hd => cases hd <;> simp at hq

namespace System

variable {N : ℕ} {s s' : System N} {a : Action} {tr es : List Event} {x p : CharPtr}

/-- Some handle holds the buffer. -/
def HoldsExtra (s : System N) (x : CharPtr) : Prop := ∃ h : Fin N, (s.slot h).HoldsExtra x

/-- A step makes the handles hold no new buffer, but for one that the entry it accepts brings. -/
theorem holdsExtra_step (hstep : s.step a = .next s' es) (hx : s'.HoldsExtra x) :
    s.HoldsExtra x ∨ ∃ c q, .accepted c q ∈ es ∧ q.extraVars = some x := by
  obtain ⟨h, hx⟩ := hx
  cases step_works hstep with
  | nowhere hes hcreated hsame =>
      have hsame := hsame h
      unfold Slot.HoldsExtra at hx
      rw [hsame.object, hsame.worker, hsame.tick] at hx
      exact .inl ⟨h, hx⟩
  | on k hk hsame =>
      by_cases hh : h = k
      · subst hh
        rcases hk.holdsExtra hx with hx | ⟨c, q, hq, hx⟩
        · exact .inl ⟨h, hx⟩
        · exact .inr ⟨c, q, (mem_history rfl).1 hq, hx⟩
      · have hsame := hsame h hh
        unfold Slot.HoldsExtra at hx
        rw [hsame.object, hsame.worker, hsame.tick] at hx
        exact .inl ⟨h, hx⟩

/-- The buffer an accepted entry brings is a new one. -/
theorem new_of_accepted (hstep : s.step a = .next s' es) {c : ℕ} {q : QueryInfo}
    (hq : .accepted c q ∈ es) (hx : q.extraVars = some x) :
    s.created ≤ x.ptr ∧ x.ptr < s'.created := by
  have ha : ∃ thread name amx params lib, a = .native thread name amx params lib := by
    cases step_works hstep with
    | nowhere hes => exact absurd hq (not_mem_of_history_nil hes rfl)
    | on k hk => exact hk.thread_of_accepted ((mem_history rfl).2 hq)
  obtain ⟨thread, name, amx, params, lib, rfl⟩ := ha
  cases step_acts hstep with
  | native thread name amx params lib hr r w _ hok => exact (extraVars_of_accepted hok hq hx).2

/-- Every buffer held was allocated. -/
theorem holdsExtra_lt (hreach : (plugin N).Reach (fun _ _ => True) tr s) (hx : s.HoldsExtra x) :
    x.ptr < s.created := by
  have hall : ∀ x, s.HoldsExtra x → x.ptr < s.created := by
    refine hreach.invariant (I := fun s => ∀ x, s.HoldsExtra x → x.ptr < s.created) ?_ ?_
    · intro s a es s' hI _ hstep x hx
      rcases holdsExtra_step hstep hx with hx | ⟨c, q, hq, hx⟩
      · exact lt_of_lt_of_le (hI x hx) (created_of_step hstep)
      · exact (new_of_accepted hstep hq hx).2
    · rintro x ⟨h, ⟨o, ho, -⟩ | ⟨p, hp, -⟩ | ⟨p, hp, -⟩⟩
      · cases ho
      · cases hp
      · cases hp
  exact hall x hx

/-- **Nobody touches the text**: if every entry that holds the buffer has the text `p` says, it stays
    so, whatever is called and whatever the two threads do. -/
theorem holdsOnly_run (hrun : (plugin N).Run (fun _ _ => True) s tr s') (hp : p.ptr < s.created)
    (honly : ∀ x, s.HoldsExtra x → x.ptr = p.ptr → x = p) (hx : s'.HoldsExtra x)
    (hptr : x.ptr = p.ptr) : x = p := by
  have hall : p.ptr < s'.created ∧ ∀ x, s'.HoldsExtra x → x.ptr = p.ptr → x = p := by
    refine hrun.invariant
      (I := fun s => p.ptr < s.created ∧ ∀ x, s.HoldsExtra x → x.ptr = p.ptr → x = p) ?_ ⟨hp, honly⟩
    rintro s a es s' ⟨hlt, hI⟩ - hstep
    refine ⟨lt_of_lt_of_le hlt (created_of_step hstep), fun x hx hptr => ?_⟩
    rcases holdsExtra_step hstep hx with hx | ⟨c, q, hq, hx⟩
    · exact hI x hx hptr
    · have hnew := (new_of_accepted hstep hq hx).1
      omega
  exact hall.2 x hx hptr

/-- After the call of `mysql_query_array` that enqueued an entry, whatever holds the buffer of the
    entry has the text that `GetString` made of the array. -/
theorem holdsOnly_call (hreach : (plugin N).Reach (fun _ _ => True) tr s) {thread : Thread}
    {amx : Memory} {params : List Cell} {lib : Answers}
    (hcall : s.step (.native thread .mysql_query_array amx params lib) = .next s' es) {c : ℕ}
    {q : QueryInfo} (hq : .accepted c q ∈ es) :
    ∃ p, q.extraVars = some p ∧ p.text = textAt (amx (param params 3)) ∧ p.ptr < s'.created ∧
      ∀ x, s'.HoldsExtra x → x.ptr = p.ptr → x = p := by
  cases step_acts hcall with
  | native _ _ _ _ _ hr r w _ hok =>
      obtain ⟨-, p, hp, htext, hold, hnew⟩ := extraVars_of_query_array hok hq
      refine ⟨p, hp, htext, hnew, fun x hx hptr => ?_⟩
      rcases holdsExtra_step hcall hx with hx | ⟨c', q', hq', hx⟩
      · have hlt := holdsExtra_lt hreach hx
        have hold' : s.created ≤ p.ptr := hold
        omega
      · have htext' := (extraVars_of_accepted hok hq' hx).1
        obtain ⟨ptr, text⟩ := x
        obtain ⟨ptr', text'⟩ := p
        cases hptr
        cases htext'.trans htext.symm
        rfl

/-! ## The round trip -/

/-- Every `OnMysqlQueryArray` in the trace receives this array. -/
def Receives (signed : Bool) (xs : List Cell) (tr : List Event) : Prop :=
  ∀ amx args, .callback amx "OnMysqlQueryArray" args ∈ tr →
    ∃ text, args[1]? = some (.string (some text)) ∧ pushed signed text = xs

/-- What the callbacks of one delivery receive: the first one the text, the others `NULL`. -/
theorem receives_deliver_iff {signed : Bool} {xs : List Cell} {t : ThreadInfo} (handle : ℕ)
    (htype : t.type = .TYPE_ARRAY) (hp : t.extraVars = some p) (scripts : List AMX) :
    Receives signed xs (t.deliver handle scripts) ↔
      (defining "OnMysqlQueryArray" scripts).length ≤ 1 ∧
        (defining "OnMysqlQueryArray" scripts ≠ [] → pushed signed p.text = xs) := by
  have hfirst : ∀ amx, t.callback handle amx = .callback amx "OnMysqlQueryArray"
      [.cell t.resultId, .string (some p.text), .cell handle] := by
    intro amx
    simp [ThreadInfo.callback, ThreadInfo.args, htype, hp, QueryType.callback]
  have hlater : ∀ amx, t.afterCallback.callback handle amx = .callback amx "OnMysqlQueryArray"
      [.cell t.resultId, .string none, .cell handle] := by
    intro amx
    simp [ThreadInfo.callback, ThreadInfo.args, ThreadInfo.afterCallback, htype, QueryType.callback]
  rw [ThreadInfo.deliver_eq, htype]
  simp only [QueryType.callback]
  cases hd : defining "OnMysqlQueryArray" scripts with
  | nil => simp [Receives]
  | cons first others =>
      cases others with
      | nil => simp [Receives, hfirst]
      | cons second others =>
          refine iff_of_false (fun hall => ?_) (by simp)
          have hmem : Event.callback second "OnMysqlQueryArray"
              [.cell t.resultId, .string none, .cell handle] ∈
              t.callback handle first ::
                (second :: others).map (t.afterCallback.callback handle) := by
            rw [List.map_cons, hlater]
            exact List.mem_cons_of_mem _ List.mem_cons_self
          obtain ⟨text, htext, -⟩ := hall _ _ hmem
          simp at htext

/-- **When extra variables survive the round trip.** A script passes an array to a threaded
    `mysql_query_array`; anything may happen until `ProcessTick` delivers the entry with that buffer,
    and while it does. Every `OnMysqlQueryArray` of that delivery receives the cells of the array,
    exactly if at most one loaded script defines it and, where one does, the array is not empty and
    every cell is the value of a `char`. -/
theorem extra_round_trip_iff (signed : Bool) {s₀ s₁ s s' : System N} {tr₀ es tr tr' : List Event}
    {thread : Thread} {amx : Memory} {params : List Cell} {lib : Answers} {c : ℕ} {q : QueryInfo}
    {h : Fin N} {src src' : ℕ} {t t' : ThreadInfo}
    (hreach : (plugin N).Reach (fun _ _ => True) tr₀ s₀)
    (hcall : s₀.step (.native thread .mysql_query_array amx params lib) = .next s₁ es)
    (hq : .accepted c q ∈ es) (hrun : (plugin N).Run (fun _ _ => True) s₁ tr s)
    (hstart : s.main = .body h src (.each t s.pAmx)) (htype : t.type = .TYPE_ARRAY)
    (hentry : t.extraVars.map CharPtr.ptr = q.extraVars.map CharPtr.ptr)
    (hdeliver : (plugin N).Run (fun s _ => s.Delivering h) s tr' s')
    (hend : s'.main = .body h src' (.pop t')) :
    Receives signed ((amx (param params 3)).takeWhile (· ≠ 0)) (deliveries tr') ↔
      (defining "OnMysqlQueryArray" s.pAmx).length ≤ 1 ∧
        (defining "OnMysqlQueryArray" s.pAmx ≠ [] →
          (amx (param params 3)).takeWhile (· ≠ 0) ≠ [] ∧
            ∀ x ∈ (amx (param params 3)).takeWhile (· ≠ 0), IsChar signed x) := by
  obtain ⟨p, hp, htext, hlt, honly⟩ := holdsOnly_call hreach hcall hq
  rw [hp] at hentry
  obtain ⟨x, hx, hptr⟩ := Option.map_eq_some_iff.1 hentry
  have hheld : s.HoldsExtra x := by
    refine ⟨h, .inr (.inr ⟨(src, .each t s.pAmx), ?_, hx⟩)⟩
    simp [slot, hstart]
  -- what is delivered has the text `GetString` made
  obtain rfl := holdsOnly_run hrun hlt honly hheld hptr
  have hall : deliveries tr' = t.deliver h s.pAmx := by
    rw [deliveries_run hdeliver hend, toDeliver, hstart]
    rfl
  rw [hall, receives_deliver_iff _ htype hx, htext, pushed_textAt_iff]

namespace RoundTrip

/-- A script with the callback is loaded and a handle is connected. -/
def connected : System 1 × List Event :=
  ((plugin 1).exec [.load ⟨0, ["OnMysqlQueryArray"]⟩, Script.mysql_init, Script.mysql_connect 0]
    System.initial).getD (System.initial, [])

/-- A threaded `mysql_query_array` with these cells as extra variables. -/
def call (cells : List Cell) : Action :=
  .native .main .mysql_query_array (fun addr => if addr = 1 then cells else [83, 0])
    [16, 0, 7, 1, 0] {}

def called (cells : List Cell) : System 1 × List Event :=
  ((plugin 1).exec [call cells] connected.1).getD (connected.1, [])

/-- The query is executed and `ProcessTick` has copied its entry. -/
def copied (cells : List Cell) : System 1 × List Event :=
  ((plugin 1).exec (Script.work 8 ++ Script.ticks 3) (called cells).1).getD ((called cells).1, [])

/-- The entry is delivered. -/
def delivered (cells : List Cell) : System 1 × List Event :=
  ((plugin 1).exec (Script.ticks 3) (copied cells).1).getD ((copied cells).1, [])

theorem letters_survive :
    Receives true [65, 90] (deliveries (delivered [65, 90, 0]).2) := by
  have hreach := Machine.run_of_exec (M := plugin 1) (P := fun _ _ => True)
    (show (plugin 1).exec [.load ⟨0, ["OnMysqlQueryArray"]⟩, Script.mysql_init,
      Script.mysql_connect 0] System.initial = some connected from rfl)
    (Machine.obeys_all _ _)
  have hrun := Machine.run_of_exec (M := plugin 1) (P := fun _ _ => True)
    (show (plugin 1).exec (Script.work 8 ++ Script.ticks 3) (called [65, 90, 0]).1 =
      some (copied [65, 90, 0]) from rfl)
    (Machine.obeys_all _ _)
  have hdeliver := Machine.run_of_exec (M := plugin 1) (P := fun s _ => s.Delivering 0)
    (show (plugin 1).exec (Script.ticks 3) (copied [65, 90, 0]).1 = some (delivered [65, 90, 0])
      from rfl)
    (Machine.obeys_of_check (p := Told.isDelivering) rfl fun _ _ => Told.delivering_of_isDelivering)
  have hcall : connected.1.step (call [65, 90, 0]) =
      .next (called [65, 90, 0]).1 (called [65, 90, 0]).2 := rfl
  have hq : .accepted 0 ⟨⟨5, "S"⟩, 7, none, some ⟨6, "AZ"⟩, .TYPE_ARRAY⟩ ∈ (called [65, 90, 0]).2 := by
    decide
  have hpAmx : (copied [65, 90, 0]).1.pAmx = [⟨0, ["OnMysqlQueryArray"]⟩] := rfl
  have hstart : (copied [65, 90, 0]).1.main =
      .body 0 0 (.each ⟨7, none, some ⟨6, "AZ"⟩, .TYPE_ARRAY⟩ (copied [65, 90, 0]).1.pAmx) := by
    rw [hpAmx]
    rfl
  have hend : (delivered [65, 90, 0]).1.main = .body 0 0 (.pop ⟨7, none, none, .TYPE_ARRAY⟩) := rfl
  refine (extra_round_trip_iff true hreach hcall hq hrun hstart rfl rfl hdeliver hend).2
    ⟨by decide, fun _ => ⟨by decide, ?_⟩⟩
  decide

/-- An empty array arrives as the four letters of `NULL`. -/
theorem empty_array_lost :
    ¬ ∀ (N : ℕ) (signed : Bool) (s₀ s₁ s s' : System N) (tr₀ es tr tr' : List Event)
      (thread : Thread) (amx : Memory) (params : List Cell) (lib : Answers) (c : ℕ) (q : QueryInfo)
      (h : Fin N) (src src' : ℕ) (t t' : ThreadInfo), (plugin N).Reach (fun _ _ => True) tr₀ s₀ →
      s₀.step (.native thread .mysql_query_array amx params lib) = .next s₁ es →
      .accepted c q ∈ es → (plugin N).Run (fun _ _ => True) s₁ tr s →
      s.main = .body h src (.each t s.pAmx) → t.type = .TYPE_ARRAY →
      t.extraVars.map CharPtr.ptr = q.extraVars.map CharPtr.ptr →
      (plugin N).Run (fun s _ => s.Delivering h) s tr' s' → s'.main = .body h src' (.pop t') →
        Receives signed ((amx (param params 3)).takeWhile (· ≠ 0)) (deliveries tr') := by
  intro hall
  have hreach := Machine.run_of_exec (M := plugin 1) (P := fun _ _ => True)
    (show (plugin 1).exec [.load ⟨0, ["OnMysqlQueryArray"]⟩, Script.mysql_init,
      Script.mysql_connect 0] System.initial = some connected from rfl)
    (Machine.obeys_all _ _)
  have hrun := Machine.run_of_exec (M := plugin 1) (P := fun _ _ => True)
    (show (plugin 1).exec (Script.work 8 ++ Script.ticks 3) (called [0]).1 = some (copied [0])
      from rfl)
    (Machine.obeys_all _ _)
  have hdeliver := Machine.run_of_exec (M := plugin 1) (P := fun s _ => s.Delivering 0)
    (show (plugin 1).exec (Script.ticks 3) (copied [0]).1 = some (delivered [0]) from rfl)
    (Machine.obeys_of_check (p := Told.isDelivering) rfl fun _ _ => Told.delivering_of_isDelivering)
  have hcall : connected.1.step (call [0]) = .next (called [0]).1 (called [0]).2 := rfl
  have hq : .accepted 0 ⟨⟨5, "S"⟩, 7, none, some ⟨6, "NULL"⟩, .TYPE_ARRAY⟩ ∈ (called [0]).2 := by decide
  have hpAmx : (copied [0]).1.pAmx = [⟨0, ["OnMysqlQueryArray"]⟩] := rfl
  have hstart : (copied [0]).1.main =
      .body 0 0 (.each ⟨7, none, some ⟨6, "NULL"⟩, .TYPE_ARRAY⟩ (copied [0]).1.pAmx) := by
    rw [hpAmx]
    rfl
  have hend : (delivered [0]).1.main = .body 0 0 (.pop ⟨7, none, none, .TYPE_ARRAY⟩) := rfl
  have hgot := hall 1 true _ _ _ _ _ _ _ _ _ _ _ _ 0 _ 0 0 0 _ _ hreach hcall hq hrun hstart rfl rfl
    hdeliver hend
  obtain ⟨text, htext, hpushed⟩ := hgot ⟨0, ["OnMysqlQueryArray"]⟩
    [.cell 7, .string (some "NULL"), .cell 0] (by decide)
  cases htext
  exact absurd hpushed (by decide)

end RoundTrip

end System

end MysqlPlugin
