import MysqlPlugin.Slot

set_option autoImplicit false

/-! # One failure, one message

`Error` tells the scripts one after the other, and while the callback of one runs, it may call
natives. The id of the error and of the handle are fixed before the first script is told, but the text
of the library is not copied: `my_error` points into the error buffer of the connection, which later
calls on the connection overwrite, and it is read again for every script.

Here the natives of a callback run where the callback runs (`ErrorWorld.errorLoop`); `MySQL.Error`,
which lets them follow the call, is the special case in which they leave the message alone
(`ErrorWorld.errorLoop_of_silent`). All scripts are told the same exactly if no callback but the last
disturbs the message (`ErrorWorld.one_message_iff`). -/

namespace MysqlPlugin

open Prog Natives

/-! ## The loop of `Error`, with the natives its callbacks call -/

/-- The text a script is told: that of the plugin and, unless it is too short, that of the library. -/
def message (error my_error : String) : String :=
  if my_error.length > 1 then error ++ ". " ++ my_error ++ "." else error

/-- A call of a native in a callback, with what the library answers to it. -/
structure NativeCall where
  name : NativeName
  amx : Memory
  params : List Cell
  lib : Answers

/-- The world, and the text in the error buffer of each connection. -/
structure ErrorWorld (N : ℕ) extends World N where
  my_error : ℕ → String

/-- A call on the connection that may overwrite its error buffer. -/
def Event.overwrites (conn : ℕ) : Event → Bool
  | .client c function => c = conn && function ≠ "mysql_error" && function ≠ "mysql_errno"
  | _ => false

namespace ErrorWorld

variable {N : ℕ}

/-- Run a native; a connection it called the library on has the error text of the answers. -/
def call (w : ErrorWorld N) (c : NativeCall) : Option (ErrorWorld N) :=
  match c.name.function ⟨c.lib, w.pAmx⟩ c.amx c.params w.toWorld with
  | .error _ => none
  | .ok (_, w', es) =>
    some ⟨w', fun conn => if es.any (Event.overwrites conn) then c.lib.error else w.my_error conn⟩

/-- What `handle` still points to: the object, until it is deleted. -/
def handle (w : ErrorWorld N) (h : Fin N) (conn : ℕ) : Option MySQL :=
  (w.my h).filter fun this => this.conn = conn

/-- What a script is told now. -/
def args (w : ErrorWorld N) (h : Fin N) (conn : ℕ) (error : String) (errid : ℤ) :
    Option (List Arg) :=
  (w.handle h conn).map fun this =>
    amx_Push [.cell this.id, .cell errid, .string (some (message error (w.my_error conn)))]

/-- The loop over the scripts, each with the natives its callback calls, up to where the handle is
    gone or a native faults. -/
def errorLoop (h : Fin N) (conn : ℕ) (error : String) (errid : ℤ) :
    List (AMX × List NativeCall) → ErrorWorld N → List Event
  | [], _ => []
  | (amx, calls) :: scripts, w =>
    if amx.FindPublic "OnMysqlError" then
      match w.args h conn error errid with
      | none => []
      | some args =>
        .callback amx "OnMysqlError" args ::
          match calls.foldlM call w with
          | none => []
          | some w' => errorLoop h conn error errid scripts w'
    else errorLoop h conn error errid scripts w

/-- `Error`, as far as the scripts see it: the id of the error is taken once. -/
def Error (w : ErrorWorld N) (lib : Answers) (h : Fin N) (conn : ℕ) (error : String) (errid : ℤ)
    (scripts : List (AMX × List NativeCall)) : List Event :=
  errorLoop h conn error (MySQL.errorId ⟨lib, w.pAmx⟩ errid) scripts w

end ErrorWorld

/-! ## Messages -/

/-- A message with the text of the library is longer than one without. -/
theorem message_ne {error my_error : String} :
    error ++ ". " ++ my_error ++ "." ≠ error := by
  intro h
  have hlength := congrArg String.length h
  simp only [String.length_append] at hlength
  have hdot : ".".length = 1 := rfl
  omega

/-- Two texts of the library make the same message if they are the same or both too short. -/
theorem message_eq_iff {error my_error my_error' : String} :
    message error my_error = message error my_error' ↔
      my_error = my_error' ∨ (my_error.length ≤ 1 ∧ my_error'.length ≤ 1) := by
  unfold message
  by_cases hlong : my_error.length > 1
  · by_cases hlong' : my_error'.length > 1
    · rw [if_pos hlong, if_pos hlong', String.append_left_inj, String.append_right_inj]
      exact ⟨.inl, fun h => h.resolve_right fun hshort => absurd hshort.1 (by omega)⟩
    · rw [if_pos hlong, if_neg hlong']
      refine iff_of_false message_ne ?_
      rintro (rfl | ⟨hshort, -⟩)
      · exact hlong' hlong
      · omega
  · by_cases hlong' : my_error'.length > 1
    · rw [if_neg hlong, if_pos hlong']
      refine iff_of_false (Ne.symm message_ne) ?_
      rintro (rfl | ⟨-, hshort⟩)
      · exact hlong hlong'
      · omega
    · rw [if_neg hlong, if_neg hlong']
      exact iff_of_true rfl (.inr ⟨by omega, by omega⟩)

/-! ## Who is told what -/

namespace ErrorWorld

variable {N : ℕ} {w w' : ErrorWorld N} {h : Fin N} {conn : ℕ} {error : String} {errid : ℤ}

/-- The scripts that are told, with the natives their callbacks call. -/
def told (scripts : List (AMX × List NativeCall)) : List (AMX × List NativeCall) :=
  scripts.filter fun script => script.1.FindPublic "OnMysqlError"

theorem told_cons_pos {script : AMX × List NativeCall} {scripts : List (AMX × List NativeCall)}
    (hf : script.1.FindPublic "OnMysqlError" = true) :
    told (script :: scripts) = script :: told scripts := List.filter_cons_of_pos hf

theorem told_cons_neg {script : AMX × List NativeCall} {scripts : List (AMX × List NativeCall)}
    (hf : ¬ script.1.FindPublic "OnMysqlError" = true) :
    told (script :: scripts) = told scripts := List.filter_cons_of_neg hf

/-- Whenever it is the turn of a script, the natives called before it have ended well, and `Q` holds. -/
def Turns {β : Type} (w : ErrorWorld N) (calls : β → List NativeCall) (Q : ErrorWorld N → Prop)
    (scripts : List β) : Prop :=
  ∀ before script after, scripts = before ++ script :: after →
    ∃ w', (before.flatMap calls).foldlM call w = some w' ∧ Q w'

/-- One turn more: `Q` holds at the first, and if there are others, the natives it calls end well and
    `Q` holds at the others after them. -/
theorem turns_cons {β : Type} {calls : β → List NativeCall} {Q : ErrorWorld N → Prop} {script : β}
    {scripts : List β} :
    w.Turns calls Q (script :: scripts) ↔
      Q w ∧ (scripts ≠ [] → ∃ w', (calls script).foldlM call w = some w' ∧
        w'.Turns calls Q scripts) := by
  constructor
  · intro hall
    refine ⟨?_, fun hne => ?_⟩
    · obtain ⟨w', hrun, hQ⟩ := hall [] script scripts rfl
      cases hrun
      exact hQ
    · obtain ⟨second, others, rfl⟩ := List.exists_cons_of_ne_nil hne
      obtain ⟨w', hrun, -⟩ := hall [script] second others rfl
      simp only [List.flatMap_cons, List.flatMap_nil, List.append_nil] at hrun
      refine ⟨w', hrun, fun before next after hsplit => ?_⟩
      obtain ⟨w₂, hrun₂, hQ⟩ := hall (script :: before) next after (by rw [hsplit]; rfl)
      rw [List.flatMap_cons, List.foldlM_append, hrun] at hrun₂
      exact ⟨w₂, hrun₂, hQ⟩
  · rintro ⟨hQ, hothers⟩ before next after hsplit
    cases before with
    | nil => exact ⟨w, rfl, hQ⟩
    | cons first before =>
        obtain ⟨rfl, rfl⟩ := List.cons.inj hsplit
        obtain ⟨w', hrun, hturns⟩ := hothers (by simp)
        obtain ⟨w₂, hrun₂, hQ₂⟩ := hturns before next after rfl
        refine ⟨w₂, ?_, hQ₂⟩
        rw [List.flatMap_cons, List.foldlM_append, hrun]
        exact hrun₂

/-- When it is the turn of a script, the natives called before it ended well and it is told `args`. -/
def TurnsFind (w : ErrorWorld N) (h : Fin N) (conn : ℕ) (error : String) (errid : ℤ)
    (scripts : List (AMX × List NativeCall)) (args : List Arg) : Prop :=
  ∀ before script after, scripts = before ++ script :: after →
    ∃ w', (before.flatMap Prod.snd).foldlM call w = some w' ∧
      w'.args h conn error errid = some args

/-- One turn more: the first script is told `args`, and if there are others, the natives it calls end
    well and the others are told `args` after them. -/
theorem turnsFind_cons {script : AMX × List NativeCall} {scripts : List (AMX × List NativeCall)}
    {args : List Arg} :
    w.TurnsFind h conn error errid (script :: scripts) args ↔
      w.args h conn error errid = some args ∧
        (scripts ≠ [] → ∃ w', script.2.foldlM call w = some w' ∧
          w'.TurnsFind h conn error errid scripts args) := turns_cons

/-- The loop executes the callback of every script that defines it with the same arguments exactly if
    every turn finds these arguments. -/
theorem errorLoop_eq_iff {scripts : List (AMX × List NativeCall)} {args : List Arg} :
    errorLoop h conn error errid scripts w =
        (told scripts).map (fun script => .callback script.1 "OnMysqlError" args) ↔
      w.TurnsFind h conn error errid (told scripts) args := by
  -- a script without the callback is passed over; the natives of the last one change nothing
  induction scripts generalizing w with
  | nil => simp [errorLoop, told, TurnsFind]
  | cons script scripts ih =>
      obtain ⟨amx, calls⟩ := script
      rw [errorLoop]
      by_cases hf : amx.FindPublic "OnMysqlError" = true
      · rw [if_pos hf, told_cons_pos hf, turnsFind_cons, List.map_cons]
        cases hargs : w.args h conn error errid with
        | none => simp
        | some args' =>
            simp only [List.cons.injEq, Event.callback.injEq, true_and, Option.some.injEq]
            refine and_congr_right fun _ => ?_
            cases hrun : calls.foldlM call w with
            | none => by_cases hnil : told scripts = [] <;> simp [hnil]
            | some w' =>
                simp only [ih, Option.some.injEq, exists_eq_left']
                refine ⟨fun hturns _ => hturns, fun hturns => ?_⟩
                by_cases hnil : told scripts = []
                · rw [hnil]
                  intro before script after hsplit
                  simp at hsplit
                · exact hturns hnil
      · rw [if_neg hf, told_cons_neg hf, ih]

/-- `MySQL.Error` is the case in which no callback calls a native. -/
theorem errorLoop_of_silent {o : MySQL} (ho : w.my h = some o) {lib : Answers}
    (hlib : lib.error = w.my_error o.conn) (pAmx : List AMX) :
    errorLoop h o.conn error errid (pAmx.map fun amx => (amx, [])) w =
      MySQL.errorCallbacks ⟨lib, pAmx⟩ o.id error errid := by
  have hargs : w.args h o.conn error errid =
      some [.string (some (MySQL.errorText ⟨lib, pAmx⟩ error)), .cell errid, .cell o.id] := by
    simp [args, handle, ho, Option.filter, MySQL.errorText, message, hlib]
  have htold : told (pAmx.map fun amx => (amx, [])) =
      (pAmx.filter (·.FindPublic "OnMysqlError")).map fun amx => (amx, []) := by
    rw [told, List.filter_map]
    rfl
  rw [errorLoop_eq_iff.2, htold, List.map_map]
  · rfl
  · intro before script after hsplit
    refine ⟨w, ?_, hargs⟩
    have hnone : before.flatMap Prod.snd = [] := by
      rw [List.flatMap_eq_nil_iff]
      intro script' hin
      have hin' : script' ∈ told (pAmx.map fun amx => (amx, [])) := by
        rw [hsplit]
        exact List.mem_append_left _ hin
      rw [htold] at hin'
      obtain ⟨amx, -, rfl⟩ := List.mem_map.1 hin'
      rfl
    rw [hnone]
    rfl

end ErrorWorld

/-! ## What a callback can disturb -/

namespace ErrorWorld

variable {N : ℕ} {w w' : ErrorWorld N} {h : Fin N}

/-- The slot may lose the object, but what the slot holds under its number has its id. -/
def Keeps (w : ErrorWorld N) (h : Fin N) (o : MySQL) : Prop :=
  o.conn < w.created ∧ ∀ o', w.my h = some o' → o'.conn = o.conn → o'.id = o.id

theorem keeps_call {o : MySQL} {c : NativeCall} (hk : w.Keeps h o) (hcall : w.call c = some w') :
    w'.Keeps h o := by
  obtain ⟨hlt, hid⟩ := hk
  unfold call at hcall
  cases hok : c.name.function ⟨c.lib, w.pAmx⟩ c.amx c.params w.toWorld with
  | error f => simp [hok] at hcall
  | ok r =>
      obtain ⟨a, w₁, es⟩ := r
      rw [hok] at hcall
      cases hcall
      obtain ⟨-, hcreated, hchange⟩ := effect_function _ _ _ _ _ _ _ _ hok
      refine ⟨lt_of_lt_of_le hlt hcreated, fun o' ho' hconn => ?_⟩
      cases hchange with
      | none hmy hs => exact hid o' (hmy ▸ ho') hconn
      | object k o₁ o₂ hh ho hmy hc =>
          rcases object_of_update hmy ho' with ⟨rfl, hsome⟩ | ⟨-, ho'⟩
          · cases hsome
            rw [hc.id]
            exact hid o₁ ho (hc.conn ▸ hconn)
          · exact hid o' ho' hconn
      | opened k env hn hfree hlt' log print hmy hs =>
          rcases object_of_update hmy ho' with ⟨rfl, hsome⟩ | ⟨-, ho'⟩
          · cases hsome
            -- a new object has a new number
            have hnew : w.created = o.conn := hconn
            omega
          · exact hid o' ho' hconn
      | closed k o₁ hn hp hh ho hconn' hmy hs =>
          rcases object_of_update hmy ho' with ⟨-, hsome⟩ | ⟨-, ho'⟩
          · cases hsome
          · exact hid o' ho' hconn

theorem keeps_calls {o : MySQL} {calls : List NativeCall} (hk : w.Keeps h o)
    (hrun : calls.foldlM call w = some w') : w'.Keeps h o := by
  induction calls generalizing w with
  | nil =>
      cases hrun
      exact hk
  | cons c calls ih =>
      rw [List.foldlM_cons] at hrun
      obtain ⟨w₁, hcall, hrest⟩ := Option.bind_eq_some_iff.1 hrun
      exact ih (keeps_call hk hcall) hrest

theorem handle_eq_some {o : MySQL} {conn : ℕ} :
    w.handle h conn = some o ↔ w.my h = some o ∧ o.conn = conn := by
  rw [handle, Option.filter_eq_some_iff]
  simp

/-- **When all scripts are told the same.** `Error` is called for a live handle; the callbacks it
    executes call any natives. Every script that defines `OnMysqlError` is told, in order, the same
    message, error id and handle exactly if, whenever the turn of one comes, the natives called by the
    callbacks before it have ended well, have not closed the handle, and have left the text in the
    error buffer of the connection as it was, or too short to be shown as it was. -/
theorem one_message_iff {s : System N} {tr : List Event} {o : MySQL}
    (hreach : (plugin N).Reach (fun _ _ => True) tr s) (ho : s.my h = some o)
    (my_error : ℕ → String) (lib : Answers) (error : String) (errid : ℤ)
    (scripts : List (AMX × List NativeCall)) :
    (∃ args, Error ⟨s.toWorld, my_error⟩ lib h o.conn error errid scripts =
        (told scripts).map fun script => .callback script.1 "OnMysqlError" args) ↔
      ∀ before script after, told scripts = before ++ script :: after →
        ∃ w, (before.flatMap Prod.snd).foldlM call ⟨s.toWorld, my_error⟩ = some w ∧
          (w.handle h o.conn).isSome = true ∧
            (my_error o.conn = w.my_error o.conn ∨
              (my_error o.conn).length ≤ 1 ∧ (w.my_error o.conn).length ≤ 1) := by
  have hkeeps : Keeps ⟨s.toWorld, my_error⟩ h o := by
    refine ⟨(System.owned_reach hreach).conn_lt ho, fun o' ho' _ => ?_⟩
    cases Option.some.inj (ho.symm.trans ho')
    rfl
  have hfirst : args ⟨s.toWorld, my_error⟩ h o.conn error
      (MySQL.errorId ⟨lib, s.pAmx⟩ errid) = some [.string (some (message error (my_error o.conn))),
        .cell (MySQL.errorId ⟨lib, s.pAmx⟩ errid), .cell o.id] := by
    rw [args, handle_eq_some.2 ⟨ho, rfl⟩]
    rfl
  simp only [Error, errorLoop_eq_iff]
  constructor
  · rintro ⟨args, hall⟩ before script after hsplit
    obtain ⟨w, hrun, hargs⟩ := hall before script after hsplit
    obtain ⟨o', hhandle, hargs'⟩ := Option.map_eq_some_iff.1 hargs
    refine ⟨w, hrun, by rw [hhandle]; rfl, ?_⟩
    -- the first script is told `args` as well
    obtain ⟨first, others, hcons⟩ : ∃ first others, told scripts = first :: others := by
      cases before <;> exact ⟨_, _, hsplit⟩
    obtain ⟨w₀, hrun₀, hargs₀⟩ := hall [] first others hcons
    cases hrun₀
    have hsame := Option.some.inj (hfirst.symm.trans hargs₀)
    rw [← hargs'] at hsame
    exact message_eq_iff.1 (by simpa using congrArg List.head? hsame)
  · intro hall
    refine ⟨[.string (some (message error (my_error o.conn))),
      .cell (MySQL.errorId ⟨lib, s.pAmx⟩ errid), .cell o.id], fun before script after hsplit => ?_⟩
    obtain ⟨w, hrun, hhandle, htext⟩ := hall before script after hsplit
    obtain ⟨o', hhandle⟩ := Option.isSome_iff_exists.1 hhandle
    obtain ⟨ho', hconn⟩ := handle_eq_some.1 hhandle
    refine ⟨w, hrun, ?_⟩
    rw [args, hhandle, Option.map_some, ← message_eq_iff.2 htext,
      (keeps_calls hkeeps hrun).2 o' ho' hconn]
    rfl

namespace TwoScripts

/-- A connected handle, after a statement that failed with this text. -/
def connected : System 1 × List Event :=
  ((plugin 1).exec [Script.mysql_init, Script.mysql_connect 0] System.initial).getD
    (System.initial, [])

def failed : ErrorWorld 1 := ⟨connected.1.toWorld, fun _ => "gone"⟩

/-- Two scripts define the callback; that of the first one calls these natives. -/
def scripts (calls : List NativeCall) : List (AMX × List NativeCall) :=
  [(⟨0, ["OnMysqlError"]⟩, calls), (⟨1, ["OnMysqlError"]⟩, [])]

/-- A call that asks the library nothing, and one that asks it successfully. -/
def result_stored : NativeCall := ⟨.mysql_result_stored, Script.memory, [4, 0], {}⟩

def ping : NativeCall := ⟨.mysql_ping, Script.memory, [4, 0], {}⟩

theorem both_told_the_same :
    ∃ args, failed.Error {} 0 0 "E" 1 (scripts [result_stored]) =
      (told (scripts [result_stored])).map
        fun script => .callback script.1 "OnMysqlError" args := by
  have hreach := Machine.run_of_exec (M := plugin 1) (P := fun _ _ => True)
    (show (plugin 1).exec [Script.mysql_init, Script.mysql_connect 0] System.initial =
      some connected from rfl)
    (Machine.obeys_all _ _)
  obtain ⟨o, ho, hconn⟩ : ∃ o, connected.1.my 0 = some o ∧ o.conn = 0 := ⟨_, rfl, rfl⟩
  have hiff := one_message_iff hreach ho (fun _ => "gone") {} "E" 1 (scripts [result_stored])
  rw [hconn] at hiff
  refine hiff.2 fun before script after hsplit => ?_
  have htold : told (scripts [result_stored]) = scripts [result_stored] := rfl
  rw [htold] at hsplit
  cases before with
  | nil => exact ⟨_, rfl, rfl, .inl rfl⟩
  | cons first before =>
      obtain ⟨rfl, hrest⟩ := List.cons.inj hsplit
      cases before with
      | nil => exact ⟨_, rfl, rfl, .inl rfl⟩
      | cons second before => simp at hrest

/-- The callback of the first script pings the server: the second script is not told why the statement
    failed. -/
theorem second_script_told_less :
    ¬ ∀ (N : ℕ) (tr : List Event) (s : System N) (h : Fin N) (o : MySQL) (my_error : ℕ → String)
      (lib : Answers) (error : String) (errid : ℤ) (scripts : List (AMX × List NativeCall)),
      (plugin N).Reach (fun _ _ => True) tr s → s.my h = some o →
        ∃ args, Error ⟨s.toWorld, my_error⟩ lib h o.conn error errid scripts =
          (told scripts).map fun script => .callback script.1 "OnMysqlError" args := by
  intro hall
  have hreach := Machine.run_of_exec (M := plugin 1) (P := fun _ _ => True)
    (show (plugin 1).exec [Script.mysql_init, Script.mysql_connect 0] System.initial =
      some connected from rfl)
    (Machine.obeys_all _ _)
  obtain ⟨o, ho, hconn⟩ : ∃ o, connected.1.my 0 = some o ∧ o.conn = 0 := ⟨_, rfl, rfl⟩
  obtain ⟨args, hsame⟩ := hall 1 connected.2 connected.1 0 o (fun _ => "gone") {} "E" 1
    (scripts [ping]) hreach ho
  have hloop : Error ⟨connected.1.toWorld, fun _ => "gone"⟩ {} 0 0 "E" 1 (scripts [ping]) =
      [.callback ⟨0, ["OnMysqlError"]⟩ "OnMysqlError"
          [.string (some "E. gone."), .cell 1, .cell 0],
        .callback ⟨1, ["OnMysqlError"]⟩ "OnMysqlError"
          [.string (some "E"), .cell 1, .cell 0]] := by decide
  rw [hconn, hloop] at hsame
  have htold : told (scripts [ping]) = scripts [ping] := rfl
  rw [htold] at hsame
  simp only [scripts, List.map_cons, List.map_nil, List.cons.injEq, Event.callback.injEq,
    true_and, and_true] at hsame
  rw [← hsame.1] at hsame
  simp at hsame

end TwoScripts

end ErrorWorld

end MysqlPlugin
