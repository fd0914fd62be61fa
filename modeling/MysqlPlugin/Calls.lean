import MysqlPlugin.BadHandle

set_option autoImplicit false

/-! # How calls end

For the results about what a single call returns, reports or writes: the rules by which a member
function, and then a native, ends without a fault (`Prog.Ends`), down to its result, the object and
the events an observer selects. The observers here overlook what every function does on the way:
logging, calls of the client library, callbacks, and string buffers (`Overlooks`). -/

namespace MysqlPlugin

open Prog Natives

/-! ## Observers -/

/-- A call of `Error`. -/
def Event.isError : Event → Bool
  | .error _ _ _ => true
  | _ => false

/-- A string is written to the data of a script. -/
def Event.isSetString : Event → Bool
  | .setString _ _ => true
  | _ => false

/-- What an observer of single calls does not see. -/
structure Overlooks (p : Event → Bool) : Prop where
  client : ∀ c f, p (.client c f) = false
  logged : ∀ line, p (.logged line) = false
  printed : ∀ line, p (.printed line) = false
  callback : ∀ amx callee args, p (.callback amx callee args) = false
  newString : ∀ ptr, p (.newString ptr) = false
  delete : ∀ ptr, p (.delete ptr) = false
  stored : ∀ c n, p (.stored c n) = false
  freed : ∀ c n, p (.freed c n) = false

theorem overlooks_isError : Overlooks Event.isError := by
  constructor <;> intros <;> rfl

theorem overlooks_isSetString : Overlooks Event.isSetString := by
  constructor <;> intros <;> rfl

/-- An observer that sees nothing: only the result and the state matter. -/
def unseen : Event → Bool := fun _ => false

theorem overlooks_unseen : Overlooks unseen := by
  constructor <;> intros <;> rfl

variable {p : Event → Bool}

namespace MySQL

variable {env : Env} {o : MySQL}

theorem ends_logAll (hp : Overlooks p) (line : String) (o : MySQL) :
    Ends p (logAll line) o () o [] :=
  .get_bind (.doIf (.emit_of_not (hp.logged line) o))

theorem ends_client (hp : Overlooks p) {function : String} (hm : o.mysql.isSome) :
    Ends p (client function) o () o [] := by
  obtain ⟨c, hc⟩ := Option.isSome_iff_exists.1 hm
  refine .get_bind ?_
  simp only [hc]
  exact .emit_of_not (hp.client _ _) o

theorem ends_clientError (hp : Overlooks p) (function : String) (o : MySQL) :
    Ends p (clientError function) o () o [] :=
  .get_bind (.emit_of_not (hp.client _ _) o)

/-- The call of `Error` an observer sees. -/
def errorEvents (p : Event → Bool) (env : Env) (o : MySQL) (error : String) (errid : ℤ) :
    List Event :=
  [.error o.conn error (errorId env errid)].filter p

/-- `Error` returns 0, and is seen once. -/
theorem ends_Error (hp : Overlooks p) (env : Env) (error : String) (errid : ℤ) (o : MySQL) :
    Ends p (Error env error errid) o 0 o (errorEvents p env o error errid) := by
  have hcallbacks : Ends p (emitAll (errorCallbacks env o.id error (errorId env errid))) o () o [] := by
    refine ⟨_, rfl, List.filter_eq_nil_iff.2 fun e he => ?_⟩
    obtain ⟨amx, -, rfl⟩ := List.mem_map.1 he
    simp [hp.callback]
  refine .then (ends_clientError hp _ o) ?_
  refine .then (.doIf (ends_clientError hp _ o)) (.get_bind ?_)
  refine .before (.emit p _ o) ?_
  refine .then (.doIf (.emit_of_not (hp.printed _) o)) ?_
  refine .then (.doIf (.emit_of_not (hp.logged _) o)) ?_
  exact .then hcallbacks (.pure p 0 o)

/-- An error branch that ends in a fixed result. -/
theorem ends_Error_then {α : Type} (hp : Overlooks p) (env : Env) (error : String) (errid : ℤ)
    (a : α) (o : MySQL) :
    Ends p (do let _ ← Error env error errid; return a) o a o (errorEvents p env o error errid) :=
  .before (ends_Error hp env error errid o) (.pure p a o)

theorem ends_freeStored (hp : Overlooks p) (o : MySQL) :
    Ends p freeStored o () { o with result := none } [] := by
  refine ⟨_, run_freeStored o, ?_⟩
  unfold freedEvents
  split
  · rfl
  · simp [hp.freed]

theorem ends_realQuery (hp : Overlooks p) (env : Env) (q : CharPtr) (hm : o.mysql.isSome) :
    Ends p (realQuery env q) o ()
      { o with
        mysql := o.mysql.map (fun c => (c.submit q.text).answer env.lib)
        state := env.lib.code } [] :=
  .then (ends_client hp hm) (.modify p _ o)

theorem ends_safeDelete (hp : Overlooks p) (q : CharPtr) (o : MySQL) :
    Ends p (safeDelete q) o () o [] :=
  .emit_of_not (hp.delete _) o

theorem ends_fetchRow (p : Event → Bool) (res : MYSQL_RES) (o : MySQL) :
    Ends p (fetchRow res) o res.fetchRow { o with row := res.fetchRow, result := some res.next } [] :=
  ⟨[], rfl, rfl⟩

theorem ends_rowCell (p : Event → Bool) {row : MYSQL_ROW} {i : ℤ} {cell : Option String} (hi : 0 ≤ i)
    (hcell : row.cells[i.toNat]? = some cell) (o : MySQL) : Ends p (rowCell row i) o cell o [] := by
  unfold rowCell
  refine .if_neg hi.not_gt ?_
  simp only [hcell]
  exact .pure p cell o

end MySQL

namespace Natives

variable {N : ℕ} {env : Env} {amx : Memory} {params : List Cell} {w w' : World N} {h : Fin N}
  {o o' : MySQL} {r : Cell} {xs : List Event}

theorem ends_call {α : Type} {method : Method α} {a : α} (ho : w.my h = some o)
    (hm : Ends p method o a o' xs) : Ends p (call h method) w a (w.set h (some o')) xs := by
  obtain ⟨es, hok, rfl⟩ := hm
  exact ⟨es, call_eq_ok.2 ⟨o, o', ho, hok, rfl⟩, rfl⟩

theorem ends_safeDelete (hp : Overlooks p) (q : CharPtr) (w : World N) :
    Ends p (safeDelete q : Native N Unit) w () w [] :=
  .emit_of_not (hp.delete _) w

/-- A byte as a character, and back. -/
theorem toNat_ofNat {b : ℕ} (h : b < 256) : (Char.ofNat b).toNat = b := by
  rw [Char.ofNat, dif_pos (Or.inl (by omega))]
  rfl

/-- The text `GetString` makes of the cells at an address. -/
def textAt (cells : List Cell) : String :=
  if (cells.takeWhile (· ≠ 0)).isEmpty then "NULL" else cString cells

/-- `GetString` allocates the next buffer. -/
theorem run_GetString (amx : Memory) (addr : Cell) (w : World N) :
    GetString amx addr w =
      .ok (⟨w.created, textAt (amx addr)⟩, { w with created := w.created + 1 },
        [.newString w.created]) := by
  rw [GetString, textAt]
  split <;> rfl

theorem ends_GetString (hp : Overlooks p) (amx : Memory) (addr : Cell) (w : World N) :
    Ends p (GetString amx addr : Native N CharPtr) w ⟨w.created, textAt (amx addr)⟩
      { w with created := w.created + 1 } [] :=
  ⟨_, run_GetString amx addr w, by simp [hp.newString]⟩

theorem ends_SetString (p : Event → Bool) (addr : Cell) (text : String) (w : World N) :
    Ends p (SetString addr (some text) : Native N Unit) w () w ([.setString addr text].filter p) :=
  .emit p _ w

/-- A call on a connection: the parameter count is right and the handle denotes a connected object. -/
structure OnConnection (params : List Cell) (n i : ℕ) (w : World N) (h : Fin N) (o : MySQL) :
    Prop where
  count : param params 0 = n * cellSize
  handle : param params i = h
  object : w.my h = some o
  connected : isConnected (some o) = true

theorem OnConnection.mysql {n i : ℕ} (hon : OnConnection params n i w h o) : o.mysql.isSome :=
  (Bool.and_eq_true_iff.1 hon.connected).1

/-- Then both checks of a native pass. -/
theorem check_eq_rest {f label : String} {n i : ℕ} (hon : OnConnection params n i w h o)
    (rest : Fin N → Native N Cell) :
    CHECK_PARAMS params f n 0 (CHECK_CONNECTION env (param params i) label rest) w = rest h w := by
  rw [check_params_eq hon.count, CHECK_CONNECTION, bind_of_silent (slotOf_of_eq hon.handle),
    read_bind, if_pos (by rw [hon.object]; exact hon.connected)]

theorem ends_check {f label : String} {n i : ℕ} {rest : Fin N → Native N Cell}
    (hon : OnConnection params n i w h o) (hrest : Ends p (rest h) w r w' xs) :
    Ends p (CHECK_PARAMS params f n 0 (CHECK_CONNECTION env (param params i) label rest)) w r w'
      xs := by
  obtain ⟨es, hok, rfl⟩ := hrest
  exact ⟨es, (check_eq_rest hon rest).trans hok, rfl⟩

theorem ends_giveString (p : Event → Bool) (addr : Cell) (value : Option String) (w : World N) :
    Ends p (giveString addr value : Native N Cell) w (if value.isSome then 1 else 0) w
      ((value.map fun text => [.setString addr text].filter p).getD []) := by
  cases value with
  | none => exact .pure p 0 w
  | some text => exact .before (ends_SetString p addr text w) (.pure p 1 w)

end Natives
end MysqlPlugin
