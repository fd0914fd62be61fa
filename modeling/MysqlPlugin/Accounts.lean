import Mathlib.Data.Finset.Card
import Mathlib.Data.Finset.Image
import Mathlib.Data.Fintype.Card
import MysqlPlugin.Lib.Machine
import MysqlPlugin.Table

set_option autoImplicit false

/-! # Do slots get lost?

A script that opens and closes handles keeps account of them: a handle `mysql_init` returned is open
until it is closed. The plugin keeps account by the handle table. The two agree as long as every
`mysql_init` that takes a slot gets a connection from the library and every handle is connected when
it is closed, and not a call longer (`Natives.slots_kept_iff`): `mysql_init` leaves its object in the
table when the library refuses, and `mysql_close` goes through `CHECK_CONNECTION`. -/

namespace MysqlPlugin

open Prog Natives

/-- The calls that open, connect and close handles. -/
inductive HandleCall
  | mysql_init (env : Env) (params : List Cell)
  | mysql_connect (env : Env) (amx : Memory) (params : List Cell)
  | mysql_close (env : Env) (params : List Cell)

/-- The native behind a call. -/
def HandleCall.native {N : ℕ} : HandleCall → Native N Cell
  | .mysql_init env params => n_mysql_init env params
  | .mysql_connect env amx params => n_mysql_connect env amx params
  | .mysql_close env params => n_mysql_close env params

/-- The account of the script: the handles `mysql_init` returned and `mysql_close` was not called
    with yet. -/
def HandleCall.book (opened : Finset Cell) (r : Cell) : HandleCall → Finset Cell
  | .mysql_init _ _ => if 0 ≤ r then insert r opened else opened
  | .mysql_connect _ _ _ => opened
  | .mysql_close _ params =>
    if param params 0 = cellSize then opened.erase (param params 1) else opened

/-- The two accounts: the plugin's and the script's. -/
structure Account (N : ℕ) where
  world : World N
  opened : Finset Cell

/-- A script that opens, connects and closes handles. -/
def accounts (N : ℕ) : Machine (Account N) HandleCall Event Fault where
  init := ⟨⟨fun _ => none, [], 0⟩, ∅⟩
  step s call :=
    match call.native s.world with
    | .error f => .fault f
    | .ok (r, w, es) => .next ⟨w, call.book s.opened r⟩ es

namespace Account

variable {N : ℕ} {s s' : Account N} {call : HandleCall} {es : List Event}

/-- The occupied slots. -/
def occupied (s : Account N) : Finset (Fin N) := Finset.univ.filter fun h => (s.world.my h).isSome

/-- The accounts agree. -/
def Agrees (s : Account N) : Prop := s.occupied.card = s.opened.card

/-- A call that gets what it needs: `mysql_init` a connection from the library if it takes a slot,
    `mysql_close` a connected handle. -/
def Provided (s : Account N) : HandleCall → Prop
  | .mysql_init env params =>
    param params 0 = 2 * cellSize → (∃ h, s.world.my h = none) → env.lib.init = true
  | .mysql_connect _ _ _ => True
  | .mysql_close _ params =>
    param params 0 = cellSize → ∀ h : Fin N, param params 1 = h → s.world.my h ≠ none →
      isConnected (s.world.my h) = true

/-- The occupied slots, as handles. -/
def handles (s : Account N) : Finset Cell := s.occupied.image fun h : Fin N => (h : ℤ)

theorem card_handles (s : Account N) : s.handles.card = s.occupied.card :=
  Finset.card_image_of_injective _ fun _ _ hhk => Fin.ext (Int.ofNat_inj.1 hhk)

theorem mem_handles {r : Cell} : r ∈ s.handles ↔ ∃ h : Fin N, (s.world.my h).isSome ∧ (h : ℤ) = r := by
  simp [handles, occupied]

/-- What a call does to the two accounts. -/
inductive Moves (s : Account N) (call : HandleCall) (s' : Account N) : Prop
  | same (hp : s.Provided call) (hh : s'.handles = s.handles) (ho : s'.opened = s.opened)
  | opened (r : Cell) (hp : s.Provided call) (hr : r ∉ s.handles)
      (hh : s'.handles = insert r s.handles) (ho : s'.opened = insert r s.opened)
  | lost (r : Cell) (hp : ¬ s.Provided call) (hr : r ∉ s.handles)
      (hh : s'.handles = insert r s.handles) (ho : s'.opened = s.opened)
  | closed (r : Cell) (hp : s.Provided call) (hr : r ∈ s.handles)
      (hh : s'.handles = s.handles.erase r) (ho : s'.opened = s.opened.erase r)
  | kept (r : Cell) (hp : ¬ s.Provided call) (hr : r ∈ s.handles)
      (hh : s'.handles = s.handles) (ho : s'.opened = s.opened.erase r)

/-- The script's handles are in the table, whatever it does. -/
theorem Moves.subset (hm : s.Moves call s') (hs : s.opened ⊆ s.handles) :
    s'.opened ⊆ s'.handles := by
  cases hm with
  | same hp hh ho => rwa [hh, ho]
  | opened r hp hr hh ho =>
      rw [hh, ho]
      exact Finset.insert_subset_insert r hs
  | lost r hp hr hh ho =>
      rw [hh, ho]
      exact hs.trans (Finset.subset_insert r _)
  | closed r hp hr hh ho =>
      rw [hh, ho]
      exact Finset.erase_subset_erase r hs
  | kept r hp hr hh ho =>
      rw [hh, ho]
      exact (Finset.erase_subset r _).trans hs

theorem agrees_iff (hs : s.opened ⊆ s.handles) : s.Agrees ↔ s.opened = s.handles := by
  rw [Agrees, ← card_handles]
  constructor
  · intro hcard
    exact Finset.eq_of_subset_of_card_le hs hcard.le
  · intro heq
    rw [heq]

/-- A call that is provided for keeps the accounts in agreement, any other ends it. -/
theorem Moves.agrees_iff_provided (hm : s.Moves call s') (hs : s.opened ⊆ s.handles)
    (hagrees : s.Agrees) : s'.Agrees ↔ s.Provided call := by
  have heq := (agrees_iff hs).1 hagrees
  rw [agrees_iff (hm.subset hs)]
  cases hm with
  | same hp hh ho => simp [hp, hh, ho, heq]
  | opened r hp hr hh ho => simp [hp, hh, ho, heq]
  | lost r hp hr hh ho =>
      refine iff_of_false (fun hsame => ?_) hp
      rw [hh, ho, heq] at hsame
      exact hr (hsame ▸ Finset.mem_insert_self r _)
  | closed r hp hr hh ho => simp [hp, hh, ho, heq]
  | kept r hp hr hh ho =>
      refine iff_of_false (fun hsame => ?_) hp
      rw [hh, ho, heq] at hsame
      exact Finset.notMem_erase r s.handles (hsame.symm ▸ hr)

/-! ## What the three natives do to the accounts -/

theorem handles_of_my (hmy : s'.world.my = s.world.my) : s'.handles = s.handles := by
  simp [handles, occupied, hmy]

theorem mem_handles_of_eq {h : Fin N} : (h : ℤ) ∈ s.handles ↔ (s.world.my h).isSome := by
  rw [mem_handles]
  constructor
  · rintro ⟨k, hk, heq⟩
    rwa [← Fin.ext (Int.ofNat_inj.1 heq)]
  · intro hsome
    exact ⟨h, hsome, rfl⟩

theorem handles_of_update {h : Fin N} {v : Option MySQL}
    (hmy : s'.world.my = Function.update s.world.my h v) :
    s'.handles = if v.isSome then insert (h : ℤ) s.handles else s.handles.erase (h : ℤ) := by
  ext r
  have hne : ∀ k : Fin N, k ≠ h → s'.world.my k = s.world.my k := by
    intro k hk
    rw [hmy, Function.update_of_ne hk]
  have hself : s'.world.my h = v := by rw [hmy, Function.update_self]
  by_cases hr : ∃ k : Fin N, (k : ℤ) = r
  · obtain ⟨k, rfl⟩ := hr
    have hiff : (k : ℤ) = (h : ℤ) ↔ k = h := by rw [Int.natCast_inj, Fin.ext_iff]
    split
    · rename_i hv
      rw [Finset.mem_insert, mem_handles_of_eq, mem_handles_of_eq, hiff]
      by_cases hk : k = h
      · subst hk
        simp [hself, hv]
      · simp [hne k hk, hk]
    · rename_i hv
      rw [Finset.mem_erase, mem_handles_of_eq, mem_handles_of_eq, ne_eq, hiff]
      by_cases hk : k = h
      · subst hk
        simp [hself, hv]
      · simp [hne k hk, hk]
  · have hnot : ∀ s : Account N, r ∉ s.handles := by
      intro s hmem
      obtain ⟨k, -, hk⟩ := mem_handles.1 hmem
      exact hr ⟨k, hk⟩
    split
    · rw [Finset.mem_insert]
      simp only [hnot, or_false, false_iff]
      exact fun heq => hr ⟨h, heq.symm⟩
    · simp [hnot]

theorem moves_of_init {env : Env} {params : List Cell} {r : Cell} {w : World N}
    (hok : n_mysql_init env params s.world = .ok (r, w, es)) :
    s.Moves (.mysql_init env params) ⟨w, HandleCall.book s.opened r (.mysql_init env params)⟩ := by
  cases opens_of_ok hok with
  | refused line hp =>
      exact .same (fun hp' => absurd hp' hp) rfl rfl
  | full hp hfull =>
      exact .same (fun _ ⟨h, hfree⟩ => absurd hfree (hfull h)) rfl rfl
  | opened h o es _ hp hfree hlow hmy =>
      have hnew : (h : ℤ) ∉ s.handles := by simp [mem_handles_of_eq, hfree]
      by_cases hinit : env.lib.init = true
      · refine .opened (h : ℤ) (fun _ _ => hinit) hnew ?_ ?_
        · exact handles_of_update (v := some o) hmy
        · simp [HandleCall.book, hinit]
      · refine .lost (h : ℤ) (fun hp' => hinit (hp' hp ⟨h, hfree⟩)) hnew ?_ ?_
        · exact handles_of_update (v := some o) hmy
        · simp [HandleCall.book, hinit]

theorem moves_of_close {env : Env} {params : List Cell} {r : Cell} {w : World N}
    (hok : n_mysql_close env params s.world = .ok (r, w, es)) :
    s.Moves (.mysql_close env params) ⟨w, HandleCall.book s.opened r (.mysql_close env params)⟩ := by
  cases closes_of_ok hok with
  | refused hp => exact .same (fun hp' => absurd hp' hp) rfl (if_neg hp)
  | failed h o hp hh ho hconn =>
      have hin : (h : ℤ) ∈ s.handles := by simp [mem_handles_of_eq, ho]
      refine .kept (h : ℤ) (fun hprov => ?_) hin rfl ?_
      · have hconn' := hprov hp h hh (by simp [ho])
        rw [ho, hconn] at hconn'
        cases hconn'
      · rw [HandleCall.book, if_pos hp, hh]
  | closed h o w hp hh ho hconn hmy =>
      have hin : (h : ℤ) ∈ s.handles := by simp [mem_handles_of_eq, ho]
      refine .closed (h : ℤ) (fun _ k hk hsome => ?_) hin ?_ ?_
      · obtain rfl : h = k := Fin.ext (Int.ofNat_inj.1 (hh.symm.trans hk))
        rwa [ho]
      · exact handles_of_update (v := none) hmy
      · rw [HandleCall.book, if_pos hp, hh]

/-- `mysql_connect` leaves every object where it is. -/
theorem moves_of_connect {env : Env} {amx : Memory} {params : List Cell} {r : Cell} {w : World N}
    (hok : n_mysql_connect env amx params s.world = .ok (r, w, es)) :
    s.Moves (.mysql_connect env amx params)
      ⟨w, HandleCall.book s.opened r (.mysql_connect env amx params)⟩ := by
  obtain ⟨-, -, hact⟩ := performs_connect env amx params _ _ _ _ hok
  refine .same trivial ?_ rfl
  cases hact with
  | told hmy hp => exact handles_of_my hmy
  | object h o o' hh ho hmy pre mid post hes hpre hpost ha =>
      have hin : (h : ℤ) ∈ s.handles := by simp [mem_handles_of_eq, ho]
      rw [handles_of_update hmy]
      exact Finset.insert_eq_of_mem hin
  | opened h env henv hn => cases hn
  | closed h o hn => cases hn

theorem account_moves (hstep : (accounts N).step s call = .next s' es) : s.Moves call s' := by
  simp only [accounts] at hstep
  cases hrun : (call.native : Native N Cell) s.world with
  | error f =>
      rw [hrun] at hstep
      simp at hstep
  | ok r =>
      obtain ⟨r, w, es'⟩ := r
      rw [hrun] at hstep
      cases hstep
      cases call with
      | mysql_init env params => exact moves_of_init hrun
      | mysql_connect env amx params => exact moves_of_connect hrun
      | mysql_close env params => exact moves_of_close hrun

/-- A call that is not provided for ends well all the same. -/
theorem step_of_not_provided (hp : ¬ s.Provided call) :
    ∃ s' es, (accounts N).step s call = .next s' es := by
  have hnext : ∀ {r : Cell} {w : World N} {es : List Event},
      call.native s.world = .ok (r, w, es) → ∃ s' es, (accounts N).step s call = .next s' es := by
    intro r w es hok
    refine ⟨⟨w, call.book s.opened r⟩, es, ?_⟩
    simp only [accounts, hok]
  cases call with
  | mysql_init env params =>
      obtain ⟨r, es, w, hok, -⟩ := run_mysql_init env params s.world
      exact hnext hok
  | mysql_connect env amx params => exact absurd trivial hp
  | mysql_close env params =>
      simp only [Provided, not_forall] at hp
      obtain ⟨hcount, h, hh, hsome, -⟩ := hp
      obtain ⟨o, ho⟩ := Option.ne_none_iff_exists'.1 hsome
      obtain ⟨r, w, es, hok⟩ := run_mysql_close env hcount hh ho
      exact hnext hok

end Account

namespace Natives

open Account

/-- **When slots get lost.** The number of occupied slots is that of the handles the script has open
    throughout, exactly if every call gets what it needs. For the two natives: `mysql_init` leaves
    the table as it was whenever it returns -1, exactly if the library gives a connection to a call
    that takes a slot; `mysql_close` frees an occupied slot exactly if it is connected. And while the
    accounts agree a script that has fewer than all handles open finds a free slot. -/
theorem slots_kept_iff (N : ℕ) (calls : List HandleCall) :
    ((accounts N).Throughout Agrees calls (accounts N).init ↔
        (accounts N).Obeys Provided calls (accounts N).init) ∧
      ∀ s : Account N,
        (∀ env params, (∀ r w es, n_mysql_init env params s.world = .ok (r, w, es) → r = -1 →
            w.my = s.world.my) ↔ s.Provided (.mysql_init env params)) ∧
        (∀ env params (h : Fin N), param params 0 = cellSize → param params 1 = h →
          s.world.my h ≠ none →
            ((∃ r w es, n_mysql_close env params s.world = .ok (r, w, es) ∧ w.my h = none) ↔
              s.Provided (.mysql_close env params))) ∧
        (s.Agrees → s.opened.card < N → ∃ h, s.world.my h = none) := by
  refine ⟨?_, fun s => ⟨fun env params => ⟨fun hkeep hp hfree => ?_, fun hprov r w es hok hr => ?_⟩,
    fun env params h hp hh hsome => ⟨?_, fun hprov => ?_⟩, fun hagrees hlt => ?_⟩⟩
  · -- the table is empty at first, and one call that is not provided for ends the agreement
    have hfirst : (accounts N).init.Agrees := by simp [Agrees, occupied, accounts]
    rw [← and_iff_right (b := (accounts N).Obeys _ _ _) hfirst]
    refine Machine.throughout_iff_obeys (J := fun s => s.opened ⊆ s.handles) ?_ ?_ ?_
      (by simp [accounts])
    · exact fun s call s' es hs hstep => (account_moves hstep).subset hs
    · exact fun s call s' es hs hagrees hp hstep =>
        ((account_moves hstep).agrees_iff_provided hs hagrees).2 hp
    · intro s call hs hagrees hp
      obtain ⟨s', es, hstep⟩ := step_of_not_provided hp
      exact ⟨s', es, hstep, fun hagrees' =>
        hp (((account_moves hstep).agrees_iff_provided hs hagrees).1 hagrees')⟩
  · -- without a connection the slot is taken and -1 is returned
    by_contra hinit
    obtain ⟨r, es, w, hok, hopens⟩ := run_mysql_init env params s.world
    have hsame := hkeep r w es hok
    cases hopens with
    | refused line hp' => exact hp' hp
    | full hp hfull =>
        obtain ⟨h, hnone⟩ := hfree
        exact hfull h hnone
    | opened h o es _ hp hnone hlow hmy =>
        have hmy' := congrFun (hmy.symm.trans (hsame (if_neg hinit))) h
        rw [Function.update_self, hnone] at hmy'
        cases hmy'
  · cases opens_of_ok hok with
    | refused | full => rfl
    | opened h o es _ hp hnone hlow hmy =>
        rw [if_pos (hprov hp ⟨h, hnone⟩)] at hr
        exact absurd hr (Int.natCast_nonneg h |>.trans_lt' (by decide)).ne'
  · -- only a connected handle is freed
    rintro ⟨r, w, es, hok, hfreed⟩ - k hk -
    obtain rfl : h = k := Fin.ext (Int.ofNat_inj.1 (hh.symm.trans hk))
    cases closes_of_ok hok with
    | refused | failed => exact absurd hfreed hsome
    | closed k o w hp hk ho hconn hmy =>
        obtain rfl : h = k := Fin.ext (Int.ofNat_inj.1 (hh.symm.trans hk))
        rwa [ho]
  · obtain ⟨o, ho⟩ := Option.ne_none_iff_exists'.1 hsome
    obtain ⟨r, w, es, hok⟩ := run_mysql_close env hp hh ho
    refine ⟨r, w, es, hok, ?_⟩
    have hconn := hprov hp h hh hsome
    cases closes_of_ok hok with
    | refused hp' => exact absurd hp hp'
    | failed k o' hp hk ho' hconn' =>
        obtain rfl : h = k := Fin.ext (Int.ofNat_inj.1 (hh.symm.trans hk))
        rw [ho', hconn'] at hconn
        cases hconn
    | closed k o' w hp hk ho' hconn' hmy =>
        obtain rfl : h = k := Fin.ext (Int.ofNat_inj.1 (hh.symm.trans hk))
        rw [hmy, Function.update_self]
  · by_contra hfull
    have hall : s.occupied = Finset.univ := by
      refine Finset.eq_univ_iff_forall.2 fun h => ?_
      simpa [occupied, Option.isSome_iff_ne_none] using fun hnone => hfull ⟨h, hnone⟩
    rw [Agrees, hall, Finset.card_univ, Fintype.card_fin] at hagrees
    omega

/-- A handle that was never connected cannot be closed: the script has no handle open, the table has
    no slot free. -/
theorem slot_of_unconnected_lost :
    ¬ ∀ (N : ℕ) (calls : List HandleCall), (accounts N).Throughout Agrees calls (accounts N).init := by
  intro hall
  have hthrough := hall 1 [.mysql_init ⟨{}, []⟩ [8, 0, 0], .mysql_close ⟨{}, []⟩ [4, 0]]
  have hlast : (1 : ℕ) = 0 := hthrough.2.2
  cases hlast

end Natives
end MysqlPlugin
