import MysqlPlugin.Effect

set_option autoImplicit false

/-! # Which connection a native uses

A member function calls the client library for the connection of its own object, and a native runs
member functions on the object in the slot of its handle. So the connections a native uses are that
one, and that of the object it makes, if it is `mysql_init` (`Natives.clients_function`). -/

namespace MysqlPlugin

open Prog

namespace MySQL

/-! ## Member functions -/

/-- The object stays the same one, and the client library is called for no other connection. -/
def OwnClients (o o' : MySQL) (es : List Event) : Prop :=
  o'.conn = o.conn ∧ ∀ c f, .client c f ∈ es → c = o.conn

theorem OwnClients.composable : Composable OwnClients where
  refl _ := ⟨rfl, nofun⟩
  trans := by
    rintro o o' o'' es es' ⟨hconn, hes⟩ ⟨hconn', hes'⟩
    refine ⟨hconn'.trans hconn, fun c f hmem => ?_⟩
    rcases List.mem_append.1 hmem with hmem | hmem
    · exact hes c f hmem
    · rw [hes' c f hmem, hconn]

variable {α β : Type}

theorem own_pure (a : α) : Stays OwnClients (pure a : Method α) := Stays.pure OwnClients.composable a

theorem own_get : Stays OwnClients (get : Method MySQL) := Stays.get OwnClients.composable

theorem own_bind {m : Method α} {f : α → Method β} (hm : Stays OwnClients m)
    (hf : ∀ a, Stays OwnClients (f a)) : Stays OwnClients (m >>= f) :=
  Stays.bind OwnClients.composable hm hf

theorem own_doIf {c : Prop} [Decidable c] {m : Method Unit} (hm : Stays OwnClients m) :
    Stays OwnClients (doIf c m) :=
  Stays.doIf OwnClients.composable hm

theorem own_modify {f : MySQL → MySQL} (hf : ∀ o, (f o).conn = o.conn) :
    Stays OwnClients (modify f : Method Unit) :=
  Stays.modify fun o => ⟨hf o, nofun⟩

theorem own_emit {e : Event} (he : ∀ c f, e ≠ .client c f) :
    Stays OwnClients (emit e : Method Unit) := by
  refine Stays.emit fun o => ⟨rfl, fun c f hmem => ?_⟩
  exact absurd (List.mem_singleton.1 hmem).symm (he c f)

/-- A call for the connection of the object itself. -/
theorem own_emit_client (function : String) :
    Stays OwnClients (get >>= fun this => emit (.client this.conn function) : Method Unit) := by
  refine Stays.get_bind fun o _ o' es hok => ?_
  cases hok
  refine ⟨rfl, fun c f hmem => ?_⟩
  cases List.mem_singleton.1 hmem
  rfl

theorem own_clientError (function : String) : Stays OwnClients (clientError function) :=
  own_emit_client function

theorem own_client (function : String) : Stays OwnClients (client function) := by
  refine Stays.get_bind fun o a o' es hok => ?_
  cases hm : o.mysql with
  | none =>
      rw [hm] at hok
      simp at hok
  | some c =>
      rw [hm] at hok
      cases hok
      refine ⟨rfl, fun c f hmem => ?_⟩
      cases List.mem_singleton.1 hmem
      rfl

theorem own_logAll (line : String) : Stays OwnClients (logAll line) :=
  own_bind own_get fun _ => own_doIf (own_emit nofun)

theorem own_errorCallbacks (env : Env) (id : ℕ) (error : String) (errid : ℤ) :
    Stays OwnClients (emitAll (errorCallbacks env id error errid)) := by
  rintro o _ _ _ ⟨⟩
  refine ⟨rfl, fun c f hmem => ?_⟩
  obtain ⟨amx, -, hcallback⟩ := List.mem_map.1 hmem
  simp at hcallback

theorem own_Error (env : Env) (error : String) (errid : ℤ) :
    Stays OwnClients (Error env error errid) := by
  refine own_bind (own_clientError _) fun _ => ?_
  refine own_bind (own_doIf (own_clientError _)) fun _ => ?_
  refine own_bind own_get fun this => ?_
  refine own_bind (own_emit nofun) fun _ => ?_
  refine own_bind (own_doIf (own_emit nofun)) fun _ => ?_
  refine own_bind (own_doIf (own_emit nofun)) fun _ => ?_
  exact own_bind (own_errorCallbacks _ _ _ _) fun _ => own_pure 0

/-- An error branch that ends in a fixed result. -/
theorem own_Error_then (env : Env) (error : String) (errid : ℤ) (a : α) :
    Stays OwnClients (do let _ ← Error env error errid; return a) :=
  own_bind (own_Error _ _ _) fun _ => own_pure a

theorem own_init (env : Env) (log : ℤ) (print : Bool) : Stays OwnClients (init env log print) := by
  refine own_bind (own_modify fun _ => rfl) fun _ => own_bind own_get fun this => ?_
  exact own_bind (own_logAll _) fun _ => Stays.ite (own_pure _) (own_Error_then _ _ _ _)

theorem own_connect (env : Env) (user : String) : Stays OwnClients (connect env user) := by
  refine own_bind (own_client _) fun _ => Stays.ite (own_bind own_get fun this => ?_) (own_Error _ _ _)
  refine own_bind (own_client _) fun _ => own_bind (own_client _) fun _ => ?_
  refine own_bind (own_emit nofun) fun _ => own_bind (own_client _) fun _ => ?_
  refine own_bind (own_emit nofun) fun _ => own_bind (own_doIf ?_) fun _ => ?_
  · refine own_bind (own_client _) fun _ => own_bind (own_emit nofun) fun _ => ?_
    exact own_bind (own_client _) fun _ => own_emit nofun
  · exact own_bind (own_modify fun _ => rfl) fun _ => own_pure _

theorem own_freeStored : Stays OwnClients freeStored := by
  refine own_bind own_get fun this => ?_
  cases this.result with
  | none => exact own_pure ()
  | some res => exact own_bind (own_emit nofun) fun _ => own_modify fun _ => rfl

theorem own_delete : Stays OwnClients delete := by
  refine own_bind own_get fun this => own_doIf (own_bind own_freeStored fun _ => ?_)
  refine own_bind (own_modify fun _ => rfl) fun _ => own_bind own_get fun this => ?_
  refine own_bind (own_doIf ?_) fun _ => own_modify fun _ => rfl
  refine own_bind (own_doIf (own_emit nofun)) fun _ => ?_
  exact own_bind (own_emit nofun) fun _ => own_client _

theorem own_refresh (env : Env) (options : Cell) : Stays OwnClients (refresh env options) := by
  refine own_bind (own_client _) fun _ => own_bind (own_logAll _) fun _ => ?_
  exact own_bind own_get fun _ => Stays.ite (own_Error _ _ _) (own_pure _)

theorem own_select_db (env : Env) (dbname : String) : Stays OwnClients (select_db env dbname) := by
  refine own_bind (own_client _) fun _ => own_bind (own_logAll _) fun _ => ?_
  exact Stays.ite (own_Error _ _ _) (own_pure _)

theorem own_enqueue (entry : QueryInfo) : Stays OwnClients (enqueue entry) := by
  refine own_bind own_get fun _ => ?_
  exact own_bind (own_emit nofun) fun _ => own_modify fun _ => rfl

theorem own_realQuery (env : Env) (query : CharPtr) : Stays OwnClients (realQuery env query) :=
  own_bind (own_client _) fun _ => own_modify fun _ => rfl

/-- A synchronous query. -/
theorem own_sync (env : Env) (q : CharPtr) {line : MySQL → String} {finish : MySQL → Method ℤ}
    (hfinish : ∀ this, Stays OwnClients (finish this)) :
    Stays OwnClients (do
      realQuery env q
      let this ← get
      logAll (line this)
      safeDelete q
      finish this) := by
  refine own_bind (own_realQuery _ _) fun _ => own_bind own_get fun this => ?_
  exact own_bind (own_logAll _) fun _ => own_bind (own_emit nofun) fun _ => hfinish this

theorem own_query (env : Env) (q : CharPtr) (resultid extra : Cell) :
    Stays OwnClients (query env q resultid extra) := by
  refine own_bind own_freeStored fun _ => Stays.ite ?_ ?_
  · exact own_bind (own_enqueue _) fun _ => own_pure _
  · exact own_sync env q fun _ => Stays.ite (own_Error _ _ _) (own_pure _)

theorem own_query_array (env : Env) (q extra : CharPtr) (resultid : Cell) :
    Stays OwnClients (query_array env q resultid extra) := by
  refine own_bind own_freeStored fun _ => Stays.ite ?_ ?_
  · exact own_bind (own_enqueue _) fun _ => own_pure _
  · exact own_sync env q fun _ => Stays.ite (own_Error _ _ _) (own_pure _)

theorem own_store_result (env : Env) : Stays OwnClients (store_result env) := by
  refine own_bind own_get fun this => Stays.ite (own_Error _ _ _) ?_
  refine Stays.ite (own_Error _ _ _) (own_bind (own_client _) fun _ => ?_)
  refine own_bind (own_modify fun _ => rfl) fun _ => own_bind (own_logAll _) fun _ => ?_
  cases this.mysql.bind (·.storeResult env.lib) with
  | none => exact own_Error _ _ _
  | some res => exact own_bind (own_emit nofun) fun _ => own_pure _

theorem own_free_result : Stays OwnClients free_result := by
  refine own_bind own_freeStored fun _ => own_bind (own_logAll _) fun _ => ?_
  exact own_bind (own_modify fun _ => rfl) fun _ => own_pure _

theorem own_result_stored : Stays OwnClients result_stored :=
  own_bind (own_logAll _) fun _ => own_bind own_get fun _ => own_pure _

/-! ### Reading the stored result set -/

theorem own_rowCell (row : MYSQL_ROW) (i : ℤ) : Stays OwnClients (rowCell row i) := by
  refine Stays.ite (Stays.fail _) ?_
  cases row.cells[i.toNat]? with
  | none => exact Stays.fail _
  | some cell => exact own_pure cell

theorem own_fetchRow (res : MYSQL_RES) : Stays OwnClients (fetchRow res) :=
  own_bind (own_modify fun _ => rfl) fun _ => own_pure _

theorem own_currentRow (res : MYSQL_RES) : Stays OwnClients (currentRow res) := by
  refine own_bind own_get fun this => ?_
  cases this.row with
  | none => exact own_fetchRow res
  | some row => exact own_pure _

/-- The frame of the functions that work on the stored result set. -/
theorem own_onResult {refuse : Method α} {work : MYSQL_RES → Method α}
    (hrefuse : Stays OwnClients refuse) (hwork : ∀ res, Stays OwnClients (work res)) :
    Stays OwnClients (do
      let this ← get
      match this.result with
      | none => refuse
      | some res => work res) := by
  refine own_bind own_get fun this => ?_
  cases this.result with
  | none => exact hrefuse
  | some res => exact hwork res

theorem own_findField (env : Env) (fieldname : String) (res : MYSQL_RES) (row : MYSQL_ROW) (i : ℕ)
    (names : List String) : Stays OwnClients (findField env fieldname res row i names) := by
  induction names generalizing i with
  | nil => exact own_Error_then _ _ _ _
  | cons name names ih =>
      refine own_bind (own_modify fun _ => rfl) fun _ => Stays.ite ?_ (ih (i + 1))
      refine own_bind (own_rowCell row i) fun cell => ?_
      cases cell with
      | none => exact own_Error_then _ _ _ _
      | some cell => exact own_pure _

theorem own_fetch_field (env : Env) (fieldname : String) :
    Stays OwnClients (fetch_field env fieldname) := by
  refine own_onResult (own_Error_then _ _ _ _) fun res => own_bind (own_logAll _) fun _ => ?_
  refine own_bind (own_currentRow res) fun row => ?_
  cases row with
  | none => exact own_pure _
  | some row => exact own_findField _ _ _ _ _ _

theorem own_fetch_field_num (env : Env) (fieldnum : Cell) :
    Stays OwnClients (fetch_field_num env fieldnum) := by
  refine own_onResult (own_Error_then _ _ _ _) fun res => own_bind (own_logAll _) fun _ => ?_
  refine own_bind (own_currentRow res) fun row => ?_
  cases row with
  | none => exact own_Error_then _ _ _ _
  | some row => exact own_rowCell _ _

theorem own_fetch_row (env : Env) (splitter : String) :
    Stays OwnClients (fetch_row env splitter) := by
  refine own_onResult (own_Error_then _ _ _ _) fun res => own_bind (own_fetchRow res) fun row => ?_
  cases row with
  | none => exact own_pure _
  | some row => exact own_bind (own_logAll _) fun _ => own_pure _

theorem own_fetch_row_data (env : Env) : Stays OwnClients (fetch_row_data env) := by
  refine own_onResult (own_Error _ _ _) fun res => own_bind (own_logAll _) fun _ => ?_
  refine own_bind (own_fetchRow res) fun row => ?_
  cases row with
  | none => exact own_Error _ _ _
  | some row => exact own_pure _

theorem own_fetchFirst (env : Env) (refused absent : α) (noResult : String)
    (convert : Option String → α) (logged : α → String) :
    Stays OwnClients (fetchFirst env refused absent noResult convert logged) := by
  refine own_onResult (own_Error_then _ _ _ _) fun res => own_bind (own_fetchRow res) fun row => ?_
  cases row with
  | none => exact own_pure _
  | some row =>
      refine own_bind (own_rowCell row 0) fun cell => ?_
      exact own_bind (own_logAll _) fun _ => own_pure _

theorem own_askResult (env : Env) (function : String) (ask : MYSQL_RES → ℤ) :
    Stays OwnClients (askResult env function ask) :=
  own_onResult (own_Error _ _ _) fun _ => own_bind (own_logAll _) fun _ => own_pure _

theorem own_data_seek (env : Env) (row : Cell) : Stays OwnClients (data_seek env row) := by
  refine own_onResult (own_Error _ _ _) fun res => own_bind (own_logAll _) fun _ => ?_
  exact own_bind (own_modify fun _ => rfl) fun _ => own_pure _

theorem own_askNumber (function : String) (answer : ℤ) :
    Stays OwnClients (askNumber function answer) :=
  own_bind (own_client _) fun _ => own_bind (own_logAll _) fun _ => own_pure _

theorem own_askText (function logged : String) (answer : Option String) :
    Stays OwnClients (askText function logged answer) :=
  own_bind (own_client _) fun _ => own_bind (own_logAll _) fun _ => own_pure _

theorem own_real_escape_string (env : Env) (string : String) :
    Stays OwnClients (real_escape_string env string) :=
  own_bind (own_client _) fun _ => own_bind (own_logAll _) fun _ => own_pure _

end MySQL

/-! ## Natives -/

namespace World

variable {N : ℕ}

/-- Slot `h` keeps its object or becomes empty, and the client library is called for no other
    connection. -/
def OwnClients (h : Fin N) (w w' : World N) (es : List Event) : Prop :=
  ((w'.my h).map MySQL.conn = (w.my h).map MySQL.conn ∨ w'.my h = none) ∧
    ∀ c f, .client c f ∈ es → (w.my h).map MySQL.conn = some c

theorem OwnClients.composable (h : Fin N) : Composable (OwnClients h) where
  refl _ := ⟨.inl rfl, nofun⟩
  trans := by
    rintro w w' w'' es es' ⟨hconn, hes⟩ ⟨hconn', hes'⟩
    refine ⟨?_, fun c f hmem => ?_⟩
    · rcases hconn with hconn | hconn
      · rwa [hconn] at hconn'
      · rw [hconn] at hconn'
        exact .inr (by simpa using hconn')
    · rcases List.mem_append.1 hmem with hmem | hmem
      · exact hes c f hmem
      · have hsome := hes' c f hmem
        rcases hconn with hconn | hconn
        · rwa [hconn] at hsome
        · rw [hconn] at hsome
          simp at hsome

theorem own_emit {e : Event} (he : ∀ c f, e ≠ .client c f) (h : Fin N) :
    Stays (OwnClients h) (emit e : Native N Unit) := by
  refine Stays.emit fun w => ⟨.inl rfl, fun c f hmem => ?_⟩
  exact absurd (List.mem_singleton.1 hmem).symm (he c f)

theorem ownClients_of_strings {α : Type} {m : Native N α} (hm : Stays Strings m) (h : Fin N) :
    Stays (OwnClients h) m := by
  refine Ensures.mono hm fun w _ w' es hq => ⟨.inl (by rw [hq.my]), fun c f hmem => ?_⟩
  exact absurd hmem (hq.events.noClient c f)

end World

namespace Natives

variable {N : ℕ} {α β : Type} {h : Fin N}

theorem own_call {method : Method α} (hm : Stays MySQL.OwnClients method) :
    Stays (World.OwnClients h) (call h method) := by
  intro w a w' es hok
  obtain ⟨o, o', ho, hrun, rfl⟩ := call_eq_ok.1 hok
  obtain ⟨hconn, hes⟩ := hm o a o' es hrun
  refine ⟨.inl ?_, fun c f hmem => ?_⟩
  · simp [World.set, ho, hconn]
  · rw [hes c f hmem, ho]
    rfl

theorem own_strings_then {m : Native N α} {f : α → Native N β} (hm : Stays World.Strings m)
    (hf : ∀ a, Stays (World.OwnClients h) (f a)) : Stays (World.OwnClients h) (m >>= f) :=
  Stays.bind (World.OwnClients.composable h) (World.ownClients_of_strings hm h) hf

theorem own_then_strings {m : Native N α} {f : α → Native N β} (hm : Stays (World.OwnClients h) m)
    (hf : ∀ a, Stays World.Strings (f a)) : Stays (World.OwnClients h) (m >>= f) :=
  Stays.bind (World.OwnClients.composable h) hm fun a => World.ownClients_of_strings (hf a) h

/-- The connections a native may use: that of the object in the slot of its handle, and that of the
    object `mysql_init` makes. -/
def Uses (name : NativeName) (params : List Cell) (w : World N) (c : ℕ) : Prop :=
  (∃ (h : Fin N) (o : MySQL), name.handle params = some (h : ℤ) ∧ w.my h = some o ∧ o.conn = c) ∨
    (name = .mysql_init ∧ c = w.created)

/-- The native calls the client library for no other connection. -/
def ClientsOf (name : NativeName) (params : List Cell) (m : Native N Cell) : Prop :=
  Ensures m fun w _ _ es => ∀ c f, .client c f ∈ es → Uses name params w c

variable {name : NativeName} {params : List Cell} {f label : String} {n : ℕ} {r : Cell} {env : Env}

theorem clients_CHECK_PARAMS {rest : Native N Cell} (hrest : ClientsOf name params rest) :
    ClientsOf name params (CHECK_PARAMS params f n r rest) := by
  intro w a w' es hok c f hmem
  unfold CHECK_PARAMS at hok
  split at hok
  · cases hok
    simp at hmem
  · exact hrest w a w' es hok c f hmem

theorem clients_of_own {handle : Cell} {i : ℕ} (hi : name.handleAt = some i)
    (hhandle : param params i = handle) {m : Native N Cell} (hslot : handle = h)
    (hm : Stays (World.OwnClients h) m) : ClientsOf name params m := by
  intro w a w' es hok c f hmem
  obtain ⟨o, ho, hc⟩ := Option.map_eq_some_iff.1 ((hm w a w' es hok).2 c f hmem)
  refine .inl ⟨h, o, ?_, ho, hc⟩
  simp [NativeName.handle, hi, hhandle, hslot]

/-- The frame of the natives on a connection. -/
theorem clients_onConnection {i : ℕ} {rest : Fin N → Native N Cell} (hi : name.handleAt = some i)
    (hrest : ∀ h : Fin N, Stays (World.OwnClients h) (rest h)) :
    ClientsOf name params
      (CHECK_PARAMS params f n 0 (CHECK_CONNECTION env (param params i) label rest)) := by
  refine clients_CHECK_PARAMS fun w a w' es hok => ?_
  obtain ⟨h, o, hh, ho, hcase⟩ := check_eq_ok hok
  rcases hcase with ⟨-, hrun⟩ | ⟨-, herror⟩
  · exact clients_of_own hi rfl hh (hrest h) w a w' es hrun
  · exact clients_of_own hi rfl hh (own_call (MySQL.own_Error _ _ _)) w a w' es herror

theorem clients_callOnly {method : Method ℤ} (hi : name.handleAt = some 1)
    (hm : Stays MySQL.OwnClients method) :
    ClientsOf (N := N) name params (callOnly env params label method) :=
  clients_onConnection hi fun _ => own_call hm

theorem clients_tellString {method : Method (Option String)} (hi : name.handleAt = some 2)
    (hm : Stays MySQL.OwnClients method) :
    ClientsOf (N := N) name params (tellString env params label method) :=
  clients_onConnection hi fun _ => own_then_strings (own_call hm) fun _ =>
    Stays.bind World.Strings.composable (World.strings_SetString _ _) fun _ => World.strings_pure _

variable (env) (amx : Memory) (params)

theorem clients_init : ClientsOf (N := N) .mysql_init params (n_mysql_init env params) := by
  refine clients_CHECK_PARAMS fun w a w' es hok c f hmem => ?_
  rw [get_bind] at hok
  cases hfree : freeSlot w.my with
  | none =>
      rw [hfree] at hok
      cases hok
      simp at hmem
  | some h =>
      rw [hfree] at hok
      obtain ⟨o', es', hinit, rfl, rfl⟩ := newMySQL_call_eq_ok hok
      refine .inr ⟨rfl, (MySQL.own_init env _ _ _ _ _ _ hinit).2 c f ?_⟩
      simpa using hmem

theorem clients_connect :
    ClientsOf (N := N) .mysql_connect params (n_mysql_connect env amx params) := by
  refine clients_CHECK_PARAMS fun w a w' es hok => ?_
  obtain ⟨h, w₁, _, es₁, hslot, hbody, rfl⟩ := bind_eq_ok.1 hok
  obtain ⟨hh, rfl, rfl⟩ := slotOf_eq_ok.1 hslot
  rw [read_bind] at hbody
  refine clients_of_own (i := 5) rfl rfl hh ?_ w₁ a w' es₁ hbody
  have hc := World.Strings.composable (N := N)
  refine Stays.ite ?_ ?_
  · have ho := World.OwnClients.composable h
    refine Stays.bind ho (World.own_emit (by simp) h) fun _ => ?_
    exact Stays.bind ho (World.own_emit (by simp) h) fun _ => Stays.pure ho 0
  · refine own_strings_then (World.strings_GetString _ _) fun host => ?_
    refine own_strings_then (World.strings_GetString _ _) fun user => ?_
    refine own_strings_then (World.strings_GetString _ _) fun pass => ?_
    refine own_strings_then (World.strings_GetString _ _) fun db => ?_
    refine own_then_strings (own_call (MySQL.own_connect _ _)) fun result => ?_
    refine Stays.bind hc (World.strings_safeDelete _) fun _ => ?_
    refine Stays.bind hc (World.strings_safeDelete _) fun _ => ?_
    refine Stays.bind hc (World.strings_safeDelete _) fun _ => ?_
    exact Stays.bind hc (World.strings_safeDelete _) fun _ => World.strings_pure _

/-- Deleting the object empties its slot. -/
theorem own_deleteMySQL (h : Fin N) : Stays (World.OwnClients h) (deleteMySQL h) := by
  have hc := World.OwnClients.composable h
  have hread : Stays (World.OwnClients h) (read h) := by
    rintro w _ _ _ ⟨⟩
    exact hc.refl w
  refine Stays.bind hc hread fun v => ?_
  cases v with
  | none => exact Stays.pure hc ()
  | some o =>
      refine Stays.bind hc (Stays.emit fun w => ⟨.inl rfl, by simp⟩) fun _ => ?_
      refine Stays.bind hc (own_call MySQL.own_delete) fun _ => ?_
      exact Stays.modify fun w => ⟨.inr (by simp [World.set]), nofun⟩

theorem clients_close : ClientsOf (N := N) .mysql_close params (n_mysql_close env params) :=
  clients_onConnection rfl fun h => Stays.bind (World.OwnClients.composable h) (own_deleteMySQL h)
    fun _ => World.ownClients_of_strings (World.strings_pure 1) h

theorem clients_fetch_row :
    ClientsOf (N := N) .mysql_fetch_row params (n_mysql_fetch_row env amx params) := by
  have hc := World.Strings.composable (N := N)
  refine clients_onConnection rfl fun h => own_strings_then (World.strings_GetString _ _) fun s => ?_
  refine own_then_strings (own_call (MySQL.own_fetch_row _ _)) fun row => ?_
  cases row with
  | none => exact World.strings_pure 0
  | some text =>
      refine Stays.bind hc (World.strings_newString text) fun row => ?_
      refine Stays.bind hc (World.strings_SetString _ _) fun _ => ?_
      exact Stays.bind hc (World.strings_safeDelete _) fun _ => World.strings_pure 1

theorem clients_real_escape_string :
    ClientsOf (N := N) .mysql_real_escape_string params
      (n_mysql_real_escape_string env amx params) := by
  have hc := World.Strings.composable (N := N)
  refine clients_onConnection rfl fun h => own_strings_then (World.strings_GetString _ _) fun s => ?_
  refine own_then_strings (own_call (MySQL.own_real_escape_string _ _)) fun text => ?_
  refine Stays.bind hc (World.strings_newString text) fun out => ?_
  refine Stays.bind hc (World.strings_safeDelete _) fun _ => ?_
  refine Stays.bind hc (World.strings_SetString _ _) fun _ => ?_
  exact Stays.bind hc (World.strings_safeDelete _) fun _ => World.strings_pure 1

theorem clients_fetch_field :
    ClientsOf (N := N) .mysql_fetch_field params (n_mysql_fetch_field env amx params) := by
  refine clients_onConnection rfl fun h => own_strings_then (World.strings_GetString _ _) fun s => ?_
  refine own_then_strings (own_call (MySQL.own_fetch_field _ _)) fun field => ?_
  exact Stays.bind World.Strings.composable (World.strings_safeDelete _) fun _ =>
    World.strings_giveString _ _

/-- The natives that hand a text of the script to a member function and delete it. -/
theorem own_withText {addr : Cell} {method : CharPtr → Method ℤ}
    (hm : ∀ text, Stays MySQL.OwnClients (method text)) :
    Stays (World.OwnClients h) (do
      let text ← GetString amx addr
      let result ← call h (method text)
      safeDelete text
      return result) := by
  refine own_strings_then (World.strings_GetString _ _) fun text => ?_
  exact own_then_strings (own_call (hm text)) fun _ =>
    Stays.bind World.Strings.composable (World.strings_safeDelete _) fun _ => World.strings_pure _

/-- **A native uses the connection of its handle only**, besides the one `mysql_init` makes. -/
theorem clients_function (name : NativeName) :
    ClientsOf (N := N) name params (name.function env amx params) := by
  have hnum := fun f (a : ℤ) => MySQL.own_askNumber f a
  have htext := fun f g (a : Option String) => MySQL.own_askText f g a
  cases name with
  | mysql_init => exact clients_init params env
  | mysql_connect => exact clients_connect params env amx
  | mysql_close => exact clients_close params env
  | mysql_refresh => exact clients_onConnection rfl fun _ => own_call (MySQL.own_refresh _ _)
  | mysql_select_db =>
      exact clients_onConnection rfl fun _ => own_withText amx fun _ => MySQL.own_select_db _ _
  | mysql_query =>
      exact clients_onConnection rfl fun _ => own_strings_then (World.strings_GetString _ _) fun _ =>
        own_call (MySQL.own_query _ _ _ _)
  | mysql_query_array =>
      exact clients_onConnection rfl fun _ => own_strings_then (World.strings_GetString _ _) fun _ =>
        own_strings_then (World.strings_GetString _ _) fun _ => own_call (MySQL.own_query_array _ _ _ _)
  | mysql_store_result => exact clients_callOnly rfl (MySQL.own_store_result env)
  | mysql_free_result => exact clients_callOnly rfl MySQL.own_free_result
  | mysql_result_stored => exact clients_callOnly rfl MySQL.own_result_stored
  | mysql_fetch_field => exact clients_fetch_field params env amx
  | mysql_fetch_field_num =>
      exact clients_onConnection rfl fun _ => own_then_strings
        (own_call (MySQL.own_fetch_field_num _ _)) fun _ => World.strings_giveString _ _
  | mysql_fetch_row => exact clients_fetch_row params env amx
  | mysql_fetch_row_data => exact clients_callOnly rfl (MySQL.own_fetch_row_data env)
  | mysql_real_escape_string => exact clients_real_escape_string params env amx
  | mysql_num_rows => exact clients_callOnly rfl (MySQL.own_askResult env _ _)
  | mysql_num_fields => exact clients_callOnly rfl (MySQL.own_askResult env _ _)
  | mysql_affected_rows => exact clients_callOnly rfl (hnum _ _)
  | mysql_insert_id => exact clients_callOnly rfl (hnum _ _)
  | mysql_ping => exact clients_callOnly rfl (hnum _ _)
  | mysql_error => exact clients_tellString rfl (htext _ _ _)
  | mysql_errno => exact clients_callOnly rfl (hnum _ _)
  | mysql_warning_count => exact clients_callOnly rfl (hnum _ _)
  | mysql_info => exact clients_tellString rfl (htext _ _ _)
  | mysql_stat => exact clients_tellString rfl (htext _ _ _)
  | mysql_get_server_info => exact clients_tellString rfl (htext _ _ _)
  | mysql_get_host_info => exact clients_tellString rfl (htext _ _ _)
  | mysql_data_seek => exact clients_onConnection rfl fun _ => own_call (MySQL.own_data_seek _ _)
  | mysql_set_character_set =>
      exact clients_onConnection rfl fun _ => own_withText amx fun _ => hnum _ _
  | mysql_get_character_set => exact clients_tellString rfl (htext _ _ _)
  | mysql_fetch_int => exact clients_callOnly rfl (MySQL.own_fetchFirst env _ _ _ _ _)
  | mysql_fetch_float => exact clients_callOnly rfl (MySQL.own_fetchFirst env _ _ _ _ _)
  | mysql_fetch_string =>
      exact clients_onConnection rfl fun _ => own_then_strings
        (own_call (MySQL.own_fetchFirst env _ _ _ _ _)) fun _ => World.strings_giveString _ _

end Natives
end MysqlPlugin
