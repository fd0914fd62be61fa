import MysqlPlugin.Exclusive
import MysqlPlugin.Lib.Ledger
import MysqlPlugin.Sync

set_option autoImplicit false

/-! # What becomes of the string buffers of a call

`GetString` allocates the strings of a call, and somebody has to delete them: the native itself, the
member function it hands them to, or, for a query that is handed to the worker, one of the two loops.

Two books are kept. In `calls` a native accounts for the buffers it allocates: they are deleted, or
handed over with the entry it enqueues. All natives keep this book in balance but for two
(`Natives.owns_function`): `mysql_fetch_row` does not delete its splitter, and the synchronous
`mysql_query_array` not its extra variables. `heap` is the book of the whole plugin. -/

namespace MysqlPlugin

open Prog Natives

/-! ## The two books -/

/-- The string buffers of an entry. -/
def ThreadInfo.buffers (t : ThreadInfo) : Multiset ℕ :=
  match t.extraVars with
  | none => 0
  | some extra => {extra.ptr}

def QueryInfo.buffers (q : QueryInfo) : Multiset ℕ :=
  {q.query.ptr} +
    match q.extraVars with
    | none => 0
    | some extra => {extra.ptr}

/-- The buffers the entries of both queues hold. -/
def MySQL.buffers (o : MySQL) : Multiset ℕ :=
  (o.queryQueue : Multiset QueryInfo).bind QueryInfo.buffers +
    (o.threadQueue : Multiset ThreadInfo).bind ThreadInfo.buffers

/-- The buffer an event allocates. -/
def Event.allocated : Event → Multiset ℕ
  | .newString p => {p}
  | _ => 0

/-- The buffer an event deletes. -/
def Event.released : Event → Multiset ℕ
  | .delete p => {p}
  | _ => 0

/-- The buffers a native hands over with an entry. -/
def Event.handedOver : Event → Multiset ℕ
  | .accepted _ q => q.buffers
  | _ => 0

/-- The book of the plugin. -/
def heap : Book Event ℕ := ⟨Event.allocated, Event.released⟩

/-- The book of a call. -/
def calls : Book Event ℕ := ⟨Event.allocated, fun e => e.released + e.handedOver⟩

/-- The buffers that natives handed over in a trace. -/
def handedOver (es : List Event) : Multiset ℕ := (Book.mk (fun _ => 0) Event.handedOver).spend es

section Books

variable {es : List Event}

@[simp] theorem heap_gained (e : Event) : heap.gained e = e.allocated := rfl

@[simp] theorem heap_spent (e : Event) : heap.spent e = e.released := rfl

@[simp] theorem handedOver_nil : handedOver [] = 0 := rfl

@[simp] theorem handedOver_cons (e : Event) (es : List Event) :
    handedOver (e :: es) = e.handedOver + handedOver es :=
  Book.spend_cons ..

@[simp] theorem handedOver_append (es es' : List Event) :
    handedOver (es ++ es') = handedOver es + handedOver es' :=
  Book.spend_append ..

theorem calls_gain (es : List Event) : calls.gain es = heap.gain es := rfl

/-- A call spends what it deletes and what it hands over. -/
theorem calls_spend (es : List Event) : calls.spend es = heap.spend es + handedOver es :=
  Multiset.bind_add _ _ _

theorem quiet_of_isPlain {e : Event} (h : e.isPlain = true) :
    calls.gained e = 0 ∧ calls.spent e = 0 := by
  cases e <;> first | exact ⟨rfl, rfl⟩ | cases h

theorem quiet_of_plain (h : Plain es) : calls.Quiet es := fun e he => quiet_of_isPlain (h e he)

/-- The history hands over, and does nothing else. -/
theorem handedOver_history (es : List Event) : handedOver (history es) = handedOver es := by
  refine Book.spend_filter fun e _ he => ?_
  cases e <;> first | rfl | cases he

/-- The deeds tell which buffers were allocated ... -/
theorem gain_deeds (es : List Event) : heap.gain (deeds es) = heap.gain es := by
  refine Book.gain_filter fun e _ he => ?_
  cases e <;> first | rfl | cases he

/-- ... and which were deleted. -/
theorem spend_deeds (es : List Event) : heap.spend (deeds es) = heap.spend es := by
  refine Book.spend_filter fun e _ he => ?_
  cases e <;> first | rfl | cases he

end Books

/-! ## What the member functions delete and hand over -/

namespace MySQL

/-- The member function allocates no buffers. -/
def NoNew (_ _ : MySQL) (es : List Event) : Prop := calls.gain es = 0

theorem NoNew.composable : Composable NoNew where
  refl _ := rfl
  trans h h' := by rw [NoNew, Book.gain_append, h, h', add_zero]

variable {pre : Multiset ℕ}

theorem owns_reads {α : Type} {method : Method α} (hm : Stays Reads method) :
    Owns calls NoNew pre method fun _ => pre :=
  .of_quiet (Ensures.mono hm fun _ _ _ _ h => ⟨quiet_of_plain h.plain, (quiet_of_plain h.plain).gain⟩)

theorem owns_idle {α : Type} {method : Method α} (hm : Stays Idle method) :
    Owns calls NoNew pre method fun _ => pre :=
  owns_reads (reads_of_idle hm)

/-- Where nothing is handed over, the deeds tell everything. -/
theorem balanced_of_deeds {es ds : List Event} {post : Multiset ℕ} (hs : history es = [])
    (hd : deeds es = ds) (hgain : heap.gain ds = 0) (hspend : pre = heap.spend ds + post) :
    calls.Balanced pre es post ∧ calls.gain es = 0 := by
  have hnew : calls.gain es = 0 := by
    rw [calls_gain, ← gain_deeds, hd, hgain]
  have hnone : handedOver es = 0 := by
    rw [← handedOver_history, hs]
    rfl
  refine ⟨?_, hnew⟩
  rw [Book.Balanced, hnew, calls_spend, ← spend_deeds, hd, hnone, add_zero, add_zero, hspend]

theorem quiet_freedEvents (o : MySQL) : calls.Quiet o.freedEvents := by
  unfold freedEvents
  split
  · nofun
  · intro e he
    cases List.mem_singleton.1 he
    exact ⟨rfl, rfl⟩

@[simp] theorem gain_freedEvents (o : MySQL) : heap.gain o.freedEvents = 0 := by
  unfold freedEvents
  split <;> rfl

@[simp] theorem spend_freedEvents (o : MySQL) : heap.spend o.freedEvents = 0 := by
  unfold freedEvents
  split <;> rfl

@[simp] theorem handedOver_freedEvents (o : MySQL) : handedOver o.freedEvents = 0 := by
  unfold freedEvents
  split <;> rfl

theorem owns_connect (env : Env) (user : String) :
    Owns calls NoNew pre (connect env user) fun _ => pre := by
  refine .of_quiet fun o a o' es hok => ?_
  obtain ⟨-, es', rfl, hes'⟩ := reconnected_of_connect env _ hok
  have hquiet : calls.Quiet (.client o.conn "mysql_real_connect" :: es') := by
    intro e he
    rcases List.mem_cons.1 he with rfl | he
    · exact ⟨rfl, rfl⟩
    · exact quiet_of_plain hes' e he
  exact ⟨hquiet, hquiet.gain⟩

theorem owns_init (env : Env) (log : ℤ) (print : Bool) :
    Owns calls NoNew pre (init env log print) fun _ => pre := by
  refine .of_quiet fun o a o' es hok => ?_
  have hquiet := quiet_of_plain (initialised_of_init env _ _ hok).2
  exact ⟨hquiet, hquiet.gain⟩

/-- Storing and freeing a result set is not about strings. -/
theorem owns_store_result (env : Env) : Owns calls NoNew pre (store_result env) fun _ => pre := by
  intro o a o' es hok
  obtain hidle | ⟨-, -, -, hs, hd⟩ := store_result_cases env hok
  · have hquiet := quiet_of_plain hidle.2
    exact ⟨hquiet.balanced pre, hquiet.gain⟩
  · refine balanced_of_deeds hs hd ?_ ?_
    · unfold storedDeeds
      split <;> rfl
    · unfold storedDeeds
      split <;> simp [Event.released]

theorem owns_free_result : Owns calls NoNew pre free_result fun _ => pre := by
  intro o a o' es hok
  obtain ⟨-, hs, hd⟩ := freed_of_free_result hok
  exact balanced_of_deeds hs hd (gain_freedEvents o) (by simp)

theorem owns_delete : Owns calls NoNew pre delete fun _ => pre := by
  refine Owns.bind NoNew.composable (owns_idle (Stays.get Idle.composable)) fun this => ?_
  refine Owns.ite (.of_quiet fun o a o' es hok => ?_) (Owns.pure NoNew.composable () rfl)
  obtain ⟨-, es', rfl, hes'⟩ := emptied_of_close hok
  have hquiet : calls.Quiet (o.freedEvents ++ es') := by
    intro e he
    rcases List.mem_append.1 he with he | he
    · exact quiet_freedEvents o e he
    · exact quiet_of_plain hes' e he
  exact ⟨hquiet, hquiet.gain⟩

/-- A synchronous query deletes its text. -/
theorem balanced_executed {q : CharPtr} {o : MySQL} {es : List Event} (hs : history es = [])
    (hd : deeds es = o.executedDeeds q) : calls.Balanced {q.ptr} es 0 ∧ calls.gain es = 0 := by
  refine balanced_of_deeds hs hd ?_ ?_
  · simp [executedDeeds, Event.allocated]
  · simp [executedDeeds, Event.released]

/-- A threaded one hands it over, with what else belongs to the entry. -/
theorem balanced_accepted (o : MySQL) (q : QueryInfo) :
    calls.Balanced q.buffers (o.freedEvents ++ [.accepted o.conn q]) 0 ∧
      calls.gain (o.freedEvents ++ [.accepted o.conn q]) = 0 := by
  have hnew : calls.gain (o.freedEvents ++ [.accepted o.conn q]) = 0 := by
    rw [calls_gain, Book.gain_append, gain_freedEvents]
    rfl
  refine ⟨?_, hnew⟩
  rw [Book.Balanced, hnew, calls_spend]
  simp [Event.released, Event.handedOver]

theorem owns_query (env : Env) (q : CharPtr) (resultid extra : Cell) :
    Owns calls NoNew {q.ptr} (query env q resultid extra) fun _ => 0 := by
  intro o a o' es hok
  by_cases hr : resultid = -1
  · rw [hr] at hok
    obtain ⟨-, hs, hd⟩ := executed_of_query_sync env q _ hok
    exact balanced_executed hs hd
  · rw [run_query_threaded env q _ _ hr] at hok
    cases hok
    exact balanced_accepted o ⟨q, resultid, some extra, none, .TYPE_ID⟩

/-- The synchronous array query does not delete the extra variables. -/
theorem owns_query_array (env : Env) (q extra : CharPtr) {resultid : Cell} (hr : resultid ≠ -1) :
    Owns calls NoNew ({q.ptr} + {extra.ptr}) (query_array env q resultid extra) fun _ => 0 := by
  intro o a o' es hok
  rw [run_query_array_threaded env q _ _ hr] at hok
  cases hok
  exact balanced_accepted o ⟨q, resultid, none, some extra, .TYPE_ARRAY⟩

end MySQL

/-! ## What the natives delete and hand over -/

namespace World

variable {N : ℕ}

/-- The buffers that are allocated are new ones. -/
def Allocates (w w' : World N) (es : List Event) : Prop := calls.Fresh w.created w'.created es

theorem Allocates.composable : Composable (Allocates (N := N)) where
  refl _ := .of_gain_eq_zero le_rfl rfl
  trans h h' := h.trans h'

end World

namespace Natives

variable {N : ℕ} {pre : Multiset ℕ}

theorem owns_pure (a : Cell) :
    Owns calls World.Allocates pre (Pure.pure a : Native N Cell) fun _ => pre :=
  Owns.pure World.Allocates.composable a rfl

theorem owns_bind {α β : Type} {m : Native N α} {f : α → Native N β} {mid : α → Multiset ℕ}
    {post : β → Multiset ℕ} (hm : Owns calls World.Allocates pre m mid)
    (hf : ∀ a, Owns calls World.Allocates (mid a) (f a) post) :
    Owns calls World.Allocates pre (m >>= f) post :=
  Owns.bind World.Allocates.composable hm hf

/-- A part that only reads the table and emits quiet events. -/
theorem owns_of_told {α : Type} {m : Native N α}
    (hm : Ensures m fun w _ w' es => calls.Quiet es ∧ w' = w) :
    Owns calls World.Allocates pre m fun _ => pre := by
  refine .of_quiet (Ensures.mono hm fun w _ w' es h => ?_)
  obtain ⟨hquiet, rfl⟩ := h
  exact ⟨hquiet, .of_gain_eq_zero le_rfl hquiet.gain⟩

theorem owns_emit {e : Event} (he : calls.gained e = 0 ∧ calls.spent e = 0) :
    Owns calls World.Allocates pre (emit e : Native N Unit) fun _ => pre := by
  refine owns_of_told fun w a w' es hok => ?_
  cases hok
  refine ⟨fun e' he' => ?_, rfl⟩
  cases List.mem_singleton.1 he'
  exact he

theorem owns_call {α : Type} {h : Fin N} {method : Method α} {post : α → Multiset ℕ}
    (hm : Owns calls MySQL.NoNew pre method post) :
    Owns calls World.Allocates pre (call h method) post := by
  intro w a w' es hok
  obtain ⟨o, o', -, hrun, rfl⟩ := call_eq_ok.1 hok
  obtain ⟨hbal, hnew⟩ := hm o a o' es hrun
  exact ⟨hbal, .of_gain_eq_zero le_rfl hnew⟩

theorem owns_newString (text : String) :
    Owns calls World.Allocates pre (newString text : Native N CharPtr) fun p => {p.ptr} + pre := by
  have hnew : Owns calls World.Allocates 0 (newString text : Native N CharPtr) fun p => {p.ptr} := by
    rintro w _ _ _ ⟨⟩
    have hgain : calls.gain [.newString w.created] = {w.created} := by
      rw [calls_gain]
      simp [Event.allocated]
    refine ⟨?_, Nat.le_succ _, fun p hp => ?_, ?_⟩
    · rw [Book.Balanced, hgain, calls_spend]
      simp [Event.released, Event.handedOver]
    · rw [hgain, Multiset.mem_singleton] at hp
      subst hp
      exact ⟨le_rfl, Nat.lt_succ_self _⟩
    · rw [hgain]
      exact Multiset.nodup_singleton _
  simpa using hnew.frame pre

theorem owns_GetString (amx : Memory) (addr : Cell) :
    Owns calls World.Allocates pre (GetString amx addr : Native N CharPtr) fun p => {p.ptr} + pre :=
  Owns.ite (owns_newString _) (owns_newString _)

theorem owns_safeDelete (p : CharPtr) {post : Multiset ℕ} (h : pre = {p.ptr} + post) :
    Owns calls World.Allocates pre (Natives.safeDelete p : Native N Unit) fun _ => post := by
  rintro w _ _ _ ⟨⟩
  refine ⟨?_, .of_gain_eq_zero le_rfl rfl⟩
  rw [Book.Balanced, calls_gain, calls_spend, h]
  simp [Event.allocated, Event.released, Event.handedOver]

theorem owns_SetString (addr : Cell) (source : Option String) :
    Owns calls World.Allocates pre (SetString addr source : Native N Unit) fun _ => pre := by
  cases source with
  | none => exact Owns.fail _
  | some text => exact owns_emit ⟨rfl, rfl⟩

theorem owns_giveString (addr : Cell) (source : Option String) :
    Owns calls World.Allocates pre (giveString addr source : Native N Cell) fun _ => pre := by
  cases source with
  | none => exact owns_pure 0
  | some text => exact owns_bind (owns_SetString _ _) fun _ => owns_pure 1

/-! ### The frames -/

variable (env : Env) (amx : Memory) (params : List Cell)

theorem owns_CHECK_PARAMS {f : String} {n : ℕ} {r : Cell} {rest : Native N Cell}
    (hrest : Owns calls World.Allocates pre rest fun _ => pre) :
    Owns calls World.Allocates pre (CHECK_PARAMS params f n r rest) fun _ => pre :=
  Owns.ite (owns_bind (owns_emit ⟨rfl, rfl⟩) fun _ => owns_pure r) hrest

theorem owns_slotOf (handle : Cell) :
    Owns calls World.Allocates pre (slotOf handle : Native N (Fin N)) fun _ => pre := by
  refine owns_of_told fun w h w' es hok => ?_
  obtain ⟨-, rfl, rfl⟩ := slotOf_eq_ok.1 hok
  exact ⟨nofun, rfl⟩

theorem owns_read (h : Fin N) :
    Owns calls World.Allocates pre (read h : Native N (Option MySQL)) fun _ => pre := by
  refine owns_of_told fun w v w' es hok => ?_
  cases hok
  exact ⟨nofun, rfl⟩

theorem owns_CHECK_CONNECTION {handle : Cell} {label : String} {rest : Fin N → Native N Cell}
    (hrest : ∀ h, Owns calls World.Allocates pre (rest h) fun _ => pre) :
    Owns calls World.Allocates pre (CHECK_CONNECTION env handle label rest) fun _ => pre := by
  refine owns_bind (owns_slotOf handle) fun h => owns_bind (owns_read h) fun v => ?_
  exact Owns.ite (hrest h) (owns_call (MySQL.owns_reads (MySQL.reads_Error _ _ _)))

theorem owns_onConnection {label : String} {n i : ℕ} {rest : Fin N → Native N Cell}
    (hrest : ∀ h, Owns calls World.Allocates pre (rest h) fun _ => pre) :
    Owns calls World.Allocates pre (onConnection env params label n i rest) fun _ => pre :=
  owns_CHECK_PARAMS params (owns_CHECK_CONNECTION env hrest)

/-! ### The natives one by one -/

theorem owns_n_mysql_init :
    Owns calls World.Allocates pre (n_mysql_init env params : Native N Cell) fun _ => pre := by
  refine owns_CHECK_PARAMS params fun w a w' es hok => ?_
  rw [get_bind] at hok
  cases hfree : freeSlot w.my with
  | none =>
      rw [hfree] at hok
      exact owns_bind (owns_emit ⟨rfl, rfl⟩)
        (fun _ => owns_bind (owns_emit ⟨rfl, rfl⟩) fun _ => owns_pure _) w a w' es hok
  | some h =>
      rw [hfree] at hok
      have hnew : Owns calls World.Allocates pre (newMySQL env h : Native N Unit) fun _ => pre := by
        rintro w _ _ _ ⟨⟩
        have hquiet : calls.Quiet [.opened w.created h] := by
          intro e he
          cases List.mem_singleton.1 he
          exact ⟨rfl, rfl⟩
        exact ⟨hquiet.balanced pre, .of_gain_eq_zero (Nat.le_succ _) hquiet.gain⟩
      exact owns_bind hnew (fun _ => owns_call (MySQL.owns_init env _ _)) w a w' es hok

theorem owns_n_mysql_connect :
    Owns calls World.Allocates 0 (n_mysql_connect env amx params : Native N Cell) fun _ => 0 := by
  refine owns_CHECK_PARAMS params (owns_bind (owns_slotOf _) fun h => ?_)
  refine owns_bind (owns_read h) fun v => Owns.ite ?_ ?_
  · exact owns_bind (owns_emit ⟨rfl, rfl⟩) fun _ =>
      owns_bind (owns_emit ⟨rfl, rfl⟩) fun _ => owns_pure 0
  · refine owns_bind (owns_GetString _ _) fun host => ?_
    refine owns_bind (owns_GetString _ _) fun user => ?_
    refine owns_bind (owns_GetString _ _) fun pass => ?_
    refine owns_bind (owns_GetString _ _) fun db => ?_
    refine owns_bind (owns_call (MySQL.owns_connect env _)) fun result => ?_
    -- they are deleted in the order they were allocated in
    have hfirst : ({db.ptr} + ({pass.ptr} + ({user.ptr} + ({host.ptr} + 0))) : Multiset ℕ) =
        {host.ptr} + ({user.ptr} + ({pass.ptr} + ({db.ptr} + 0))) := by
      ac_rfl
    refine owns_bind (owns_safeDelete host hfirst) fun _ => ?_
    refine owns_bind (owns_safeDelete user rfl) fun _ => ?_
    refine owns_bind (owns_safeDelete pass rfl) fun _ => ?_
    exact owns_bind (owns_safeDelete db rfl) fun _ => owns_pure result

theorem owns_n_mysql_close :
    Owns calls World.Allocates pre (n_mysql_close env params : Native N Cell) fun _ => pre := by
  refine owns_onConnection env params fun h => owns_bind ?_ fun _ => owns_pure 1
  refine owns_bind (owns_read h) fun v => ?_
  cases v with
  | none => exact Owns.pure World.Allocates.composable () rfl
  | some o =>
      refine owns_bind (owns_emit ⟨rfl, rfl⟩) fun _ => ?_
      refine owns_bind (owns_call MySQL.owns_delete) fun _ => ?_
      rintro w _ _ _ ⟨⟩
      exact ⟨.refl pre, .of_gain_eq_zero le_rfl rfl⟩

theorem owns_n_mysql_select_db :
    Owns calls World.Allocates pre (n_mysql_select_db env amx params : Native N Cell)
      fun _ => pre := by
  refine owns_onConnection env params fun h => owns_bind (owns_GetString _ _) fun dbname => ?_
  refine owns_bind (owns_call (MySQL.owns_reads (MySQL.reads_select_db _ _))) fun result => ?_
  exact owns_bind (owns_safeDelete dbname rfl) fun _ => owns_pure result

theorem owns_n_mysql_query :
    Owns calls World.Allocates 0 (n_mysql_query env amx params : Native N Cell) fun _ => 0 := by
  refine owns_onConnection env params fun h => owns_bind (owns_GetString _ _) fun query => ?_
  rw [add_zero]
  exact owns_call (MySQL.owns_query env query _ _)

theorem owns_n_mysql_query_array (hr : param params 2 ≠ -1) :
    Owns calls World.Allocates 0 (n_mysql_query_array env amx params : Native N Cell)
      fun _ => 0 := by
  refine owns_onConnection env params fun h => owns_bind (owns_GetString _ _) fun query => ?_
  refine owns_bind (owns_GetString _ _) fun extra => ?_
  rw [add_zero, add_comm]
  exact owns_call (MySQL.owns_query_array env query extra hr)

theorem owns_callOnly {label : String} {method : Method ℤ}
    (hm : Owns calls MySQL.NoNew pre method fun _ => pre) :
    Owns calls World.Allocates pre (callOnly env params label method : Native N Cell)
      fun _ => pre :=
  owns_onConnection env params fun _ => owns_call hm

theorem owns_n_mysql_fetch_field :
    Owns calls World.Allocates pre (n_mysql_fetch_field env amx params : Native N Cell)
      fun _ => pre := by
  refine owns_onConnection env params fun h => owns_bind (owns_GetString _ _) fun fieldname => ?_
  refine owns_bind (owns_call (MySQL.owns_reads (MySQL.reads_fetch_field _ _))) fun field => ?_
  exact owns_bind (owns_safeDelete fieldname rfl) fun _ => owns_giveString _ _

theorem owns_n_mysql_fetch_field_num :
    Owns calls World.Allocates pre (n_mysql_fetch_field_num env params : Native N Cell)
      fun _ => pre :=
  owns_onConnection env params fun _ =>
    owns_bind (owns_call (MySQL.owns_reads (MySQL.reads_fetch_field_num _ _))) fun _ =>
      owns_giveString _ _

theorem owns_n_mysql_real_escape_string :
    Owns calls World.Allocates pre (n_mysql_real_escape_string env amx params : Native N Cell)
      fun _ => pre := by
  refine owns_onConnection env params fun h => owns_bind (owns_GetString _ _) fun input => ?_
  refine owns_bind (owns_call (MySQL.owns_reads (MySQL.reads_real_escape_string _ _))) fun text => ?_
  refine owns_bind (owns_newString text) fun out => ?_
  refine owns_bind (owns_safeDelete input (add_left_comm _ _ _)) fun _ => ?_
  refine owns_bind (owns_SetString _ _) fun _ => ?_
  exact owns_bind (owns_safeDelete out rfl) fun _ => owns_pure 1

theorem owns_n_mysql_fetch_string :
    Owns calls World.Allocates pre (n_mysql_fetch_string env params : Native N Cell) fun _ => pre :=
  owns_onConnection env params fun _ =>
    owns_bind (owns_call (MySQL.owns_reads (MySQL.reads_fetchFirst _ _ _ _ _ _))) fun _ =>
      owns_giveString _ _

theorem owns_tellString {label : String} {method : Method (Option String)}
    (hm : Stays MySQL.Reads method) :
    Owns calls World.Allocates pre (tellString env params label method : Native N Cell)
      fun _ => pre :=
  owns_onConnection env params fun _ => owns_bind (owns_call (MySQL.owns_reads hm)) fun _ =>
    owns_bind (owns_SetString _ _) fun _ => owns_pure _

theorem owns_n_mysql_set_character_set :
    Owns calls World.Allocates pre (n_mysql_set_character_set env amx params : Native N Cell)
      fun _ => pre := by
  refine owns_onConnection env params fun h => owns_bind (owns_GetString _ _) fun charset => ?_
  refine owns_bind (owns_call (MySQL.owns_reads (MySQL.reads_askNumber rfl _))) fun result => ?_
  exact owns_bind (owns_safeDelete charset rfl) fun _ => owns_pure result

/-- **Every native but two deletes or hands over the buffers it allocates.** The two are
    `mysql_fetch_row` and the synchronous `mysql_query_array`. -/
theorem owns_function (name : NativeName) (hrow : name ≠ .mysql_fetch_row)
    (harray : name = .mysql_query_array → param params 2 ≠ -1) :
    Owns calls World.Allocates 0 (name.function env amx params : Native N Cell) fun _ => 0 := by
  have hcall : ∀ {label : String} {method : Method ℤ}, Stays MySQL.Reads method →
      Owns calls World.Allocates 0 (callOnly env params label method : Native N Cell) fun _ => 0 :=
    fun hm => owns_callOnly env params (MySQL.owns_reads hm)
  cases name with
  | mysql_init => exact owns_n_mysql_init env params
  | mysql_connect => exact owns_n_mysql_connect env amx params
  | mysql_close => exact owns_n_mysql_close env params
  | mysql_refresh =>
      exact owns_CHECK_PARAMS params (owns_CHECK_CONNECTION env fun h =>
        owns_call (MySQL.owns_reads (MySQL.reads_refresh _ _)))
  | mysql_select_db => exact owns_n_mysql_select_db env amx params
  | mysql_query => exact owns_n_mysql_query env amx params
  | mysql_query_array => exact owns_n_mysql_query_array env amx params (harray rfl)
  | mysql_store_result => exact owns_callOnly env params (MySQL.owns_store_result env)
  | mysql_free_result => exact owns_callOnly env params MySQL.owns_free_result
  | mysql_result_stored => exact hcall MySQL.reads_result_stored
  | mysql_fetch_field => exact owns_n_mysql_fetch_field env amx params
  | mysql_fetch_field_num => exact owns_n_mysql_fetch_field_num env params
  | mysql_fetch_row => exact absurd rfl hrow
  | mysql_fetch_row_data => exact hcall (MySQL.reads_fetch_row_data env)
  | mysql_real_escape_string => exact owns_n_mysql_real_escape_string env amx params
  | mysql_num_rows => exact hcall (MySQL.reads_askResult env _ _)
  | mysql_num_fields => exact hcall (MySQL.reads_askResult env _ _)
  | mysql_affected_rows => exact hcall (MySQL.reads_askNumber rfl _)
  | mysql_insert_id => exact hcall (MySQL.reads_askNumber rfl _)
  | mysql_ping => exact hcall (MySQL.reads_askNumber rfl _)
  | mysql_error => exact owns_tellString env params (MySQL.reads_askText rfl _ _)
  | mysql_errno => exact hcall (MySQL.reads_askNumber rfl _)
  | mysql_warning_count => exact hcall (MySQL.reads_askNumber rfl _)
  | mysql_info => exact owns_tellString env params (MySQL.reads_askText rfl _ _)
  | mysql_stat => exact owns_tellString env params (MySQL.reads_askText rfl _ _)
  | mysql_get_server_info => exact owns_tellString env params (MySQL.reads_askText rfl _ _)
  | mysql_get_host_info => exact owns_tellString env params (MySQL.reads_askText rfl _ _)
  | mysql_data_seek =>
      exact owns_onConnection env params fun h => owns_call (MySQL.owns_reads (MySQL.reads_data_seek _ _))
  | mysql_set_character_set => exact owns_n_mysql_set_character_set env amx params
  | mysql_get_character_set => exact owns_tellString env params (MySQL.reads_askText rfl _ _)
  | mysql_fetch_int => exact hcall (MySQL.reads_fetchFirst env _ _ _ _ _)
  | mysql_fetch_float => exact hcall (MySQL.reads_fetchFirst env _ _ _ _ _)
  | mysql_fetch_string => exact owns_n_mysql_fetch_string env params

variable {env} {amx} {params} {w w' : World N} {r : Cell} {es : List Event}

/-- A call that is refused handles no strings. -/
theorem quiet_of_refused {label : String} {name : NativeName} {i : ℕ} {rest : Fin N → Native N Cell}
    (hi : name.handleAt = some i) (hnone : w.callee name params = none)
    (hok : onConnection env params label name.paramCount i rest w = .ok (r, w', es)) :
    calls.Quiet es ∧ w.Allocates w' es := by
  by_cases hp : param params 0 = name.paramCount * cellSize
  · rw [onConnection, check_params_eq hp] at hok
    obtain ⟨h, o, hh, ho, hcase⟩ := check_eq_ok hok
    have hcallee := World.callee_eq hp (by simp [NativeName.handle, hi, hh]) ho
    rcases hcase with ⟨hconn, -⟩ | ⟨-, herror⟩
    · rw [hnone, if_pos (by simp [hconn])] at hcallee
      simp at hcallee
    · obtain ⟨_, _, -, hm, rfl⟩ := call_eq_ok.1 herror
      have hquiet := quiet_of_plain (MySQL.idle_Error _ _ _ _ _ _ _ hm).2
      exact ⟨hquiet, .of_gain_eq_zero le_rfl hquiet.gain⟩
  · rw [onConnection, CHECK_PARAMS, if_pos hp] at hok
    cases hok
    have hquiet : calls.Quiet [.printed ("Function: " ++ label ++
        " called with incorrect parameter count.")] := by
      intro e he
      cases List.mem_singleton.1 he
      exact ⟨rfl, rfl⟩
    exact ⟨hquiet, .of_gain_eq_zero le_rfl hquiet.gain⟩

end Natives

/-- The call deletes or hands over the buffers it allocates: it is refused, or it is neither
    `mysql_fetch_row` nor a synchronous `mysql_query_array`. -/
def World.Frees {N : ℕ} (w : World N) (name : NativeName) (params : List Cell) : Prop :=
  name = .mysql_fetch_row ∨ (name = .mysql_query_array ∧ param params 2 = -1) →
    w.callee name params = none

/-- Such a call is in balance. -/
theorem World.Frees.balanced {N : ℕ} {w w' : World N} {name : NativeName} {env : Env} {amx : Memory}
    {params : List Cell} {r : Cell} {es : List Event} (hfrees : w.Frees name params)
    (hok : name.function env amx params w = .ok (r, w', es)) :
    calls.Balanced 0 es 0 ∧ w.Allocates w' es := by
  by_cases hrow : name = .mysql_fetch_row
  · subst hrow
    have hrefused := quiet_of_refused (i := 3) rfl (hfrees (.inl rfl)) hok
    exact ⟨hrefused.1.balanced 0, hrefused.2⟩
  · by_cases harray : name = .mysql_query_array ∧ param params 2 = -1
    · obtain ⟨rfl, hr⟩ := harray
      have hrefused := quiet_of_refused (i := 4) rfl (hfrees (.inr ⟨rfl, hr⟩)) hok
      exact ⟨hrefused.1.balanced 0, hrefused.2⟩
    · exact owns_function env amx params name hrow (fun hname hr => harray ⟨hname, hr⟩) w r w' es hok

end MysqlPlugin
