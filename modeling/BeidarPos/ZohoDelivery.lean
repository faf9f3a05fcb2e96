import BeidarPos.ZohoInvoices

/-! How often a sale reaches the books. A pass works on the sales it loaded, and a sale is kept from
the passes after it only by the mark on its row; so what can bring a sale to the books again is a
mark that was not written, or a pass that begins while another still holds the sale. -/
namespace BeidarPos

open Machine Relational Journal Tx

/-- The books take the invoice. -/
def ZohoAnswer.taken (answer : ZohoAnswer) : Bool :=
  match isZohoEnabled answer.config, answer.accessToken, answer.response with
  | some true, .ok _, .ok response => response.statusCode = 200 || response.statusCode = 201
  | _, _, _ => false

namespace ZohoSystem

variable (id : String) (s : ZohoSystem)

/-- How many times the passes under way still hold the sale. -/
def held : Nat := s.unsyncedSales.countP fun sale => sale.id = id

def marked : Bool := (s.db.sales.find? id).any SaleRow.zohoSynced

/-- The row of the sale is marked, or a pass holds the sale. -/
def settled : Nat := if s.marked id = true ∨ 0 < s.held id then 1 else 0

end ZohoSystem

namespace ZohoStep

variable (id : String)

/-- The step sends the sale and the books take it; `written` says what became of the mark. -/
def sends (written : Bool → Bool) : ZohoStep → ZohoSystem → Nat
  | .send index answer, s =>
    if (s.unsyncedSales[index]?).any (fun sale => sale.id = id) && answer.taken && written answer.marked then 1 else 0
  | _, _ => 0

/-- The books take the sale. -/
def takes : ZohoStep → ZohoSystem → Nat := sends id fun _ => true

/-- They take it and the mark is written. -/
def marks : ZohoStep → ZohoSystem → Nat := sends id fun written => written

/-- They take it and the mark is not written. -/
def misses : ZohoStep → ZohoSystem → Nat := sends id fun written => !written

/-- A pass loads the sale while another one holds it. -/
def overlaps : ZohoStep → ZohoSystem → Nat
  | .load config queried, s => if 0 < s.held id ∧ s.held id < (s.load config queried).held id then 1 else 0
  | _, _ => 0

end ZohoStep

/-- What a run adds up, step by step. -/
def tally (f : ZohoStep → ZohoSystem → Nat) : List ZohoStep → ZohoSystem → Nat
  | [], _ => 0
  | step :: steps, s => f step s + tally f steps (step.next s)

section Calls

variable {env : Env} {db final : Store} {c : Call} {ws : List Write} {id : String}

/-- A call leaves the mark of a stored sale. -/
theorem call_synced {row : SaleRow} (h : Does (c.body .exact env) db () ws final) (stored : db.sales.find? id = some row) :
    ∃ after, final.sales.find? id = some after ∧ after.zohoSynced = row.zohoSynced := by
  rcases call_row h id with ⟨_, kept⟩ | ⟨_, _, _, facts, own, _⟩ | ⟨sale, _, loaded, now⟩ |
    ⟨productID, qty, item, sale, _, facts, now⟩ | ⟨index, _, _, sale, plan, _, _, facts, now⟩
  · exact ⟨row, kept.trans stored, rfl⟩
  · rw [own, facts.fresh] at stored
    cases stored
  · cases (getSale_row loaded).1.symm.trans stored
    exact ⟨_, now, rfl⟩
  · cases (getSale_row facts.loaded).1.symm.trans stored
    exact ⟨_, now, rfl⟩
  · cases (getSale_row facts.loaded).1.symm.trans stored
    exact ⟨_, now, rfl⟩

end Calls

section Steps

variable {answer : ZohoAnswer} {sale : Sale} {step : ZohoStep} {s : ZohoSystem} {id : String}

theorem untaken_of_config (closed : isZohoEnabled answer.config ≠ some true) : answer.taken = false := by
  unfold ZohoAnswer.taken
  split
  · rename_i enabled _ _
    exact absurd enabled closed
  · rfl

/-- A call that ends the program was not taken. -/
theorem createZohoInvoice_none {state : ZohoState} (ended : createZohoInvoice answer sale state = none) :
    answer.taken = false := by
  refine untaken_of_config fun enabled => ?_
  unfold createZohoInvoice at ended
  cases config : answer.config with
  | error err => simp [config, isZohoEnabled] at enabled
  | ok found =>
    cases found with
    | none => simp [config, isZohoEnabled] at enabled
    | some linked =>
      rw [config] at enabled
      simp only [config, enabled] at ended
      split at ended
      · cases ended
      · split at ended
        · cases ended
        · split at ended <;> cases ended

/-- What the books took is marked when its update goes through; everything else leaves the database. -/
theorem createZohoInvoice_db {state next : ZohoState} {err : Option String}
    (done : createZohoInvoice answer sale state = some (next, err)) :
    next.db = if answer.taken = true ∧ answer.marked = true then state.db.markSaleAsSynced sale.id else state.db := by
  unfold createZohoInvoice at done
  split at done
  · cases done
  · rename_i closed
    cases done
    rw [untaken_of_config (by simp [closed]), if_neg (by simp)]
  · rename_i opened failed
    rw [failed] at opened
    cases opened
  · cases done
  · rename_i config opened linked
    cases token : answer.accessToken with
    | error e =>
      have untaken : answer.taken = false := by simp [ZohoAnswer.taken, token]
      simp only [token, Option.some.injEq, Prod.mk.injEq] at done
      rw [← done.1, (addToSyncQueue_keeps _ _ _).1, if_neg (by simp [untaken])]
    | ok text =>
      cases response : answer.response with
      | error e =>
        have untaken : answer.taken = false := by simp [ZohoAnswer.taken, response]
        simp only [token, response, Option.some.injEq, Prod.mk.injEq] at done
        rw [← done.1, (addToSyncQueue_keeps _ _ _).1, if_neg (by simp [untaken])]
      | ok reply =>
        have taken : answer.taken = (reply.statusCode = 200 || reply.statusCode = 201) := by
          simp [ZohoAnswer.taken, token, response, opened]
        simp only [token, response] at done
        by_cases refused : reply.statusCode ≠ 200 ∧ reply.statusCode ≠ 201
        · rw [if_pos refused] at done
          obtain rfl := (Prod.mk.inj (Option.some.inj done)).1
          rw [(addToSyncQueue_keeps _ _ _).1, if_neg (by simp [taken, refused])]
        · have accepted : answer.taken = true := by
            rw [taken]
            simpa [imp_iff_or_not, or_comm] using refused
          rw [if_neg refused] at done
          obtain rfl := (Prod.mk.inj (Option.some.inj done)).1
          by_cases written : answer.marked = true
          · rw [if_pos written, if_pos ⟨accepted, written⟩]
          · rw [if_neg written, if_neg (by simp [written])]

theorem settled_cases (id : String) (s : ZohoSystem) :
    (s.settled id = 1 ∧ (s.marked id = true ∨ 0 < s.held id)) ∨
      (s.settled id = 0 ∧ ¬s.marked id = true ∧ s.held id = 0) := by
  unfold ZohoSystem.settled
  split
  · exact .inl ⟨rfl, ‹_›⟩
  · rename_i open_
    rw [not_or, Nat.pos_iff_ne_zero, not_not] at open_
    exact .inr ⟨rfl, open_⟩

theorem settled_of_marked (marked : s.marked id = true) : s.settled id = 1 := if_pos (.inl marked)

/-- Nothing reaches the books, and no mark is lost. -/
theorem quiet_delivery {next : ZohoSystem} (marked : s.marked id = true → next.marked id = true)
    (held : next.held id ≤ s.held id) : next.held id + s.settled id ≤ s.held id + next.settled id := by
  rcases settled_cases id s with ⟨one, why⟩ | ⟨zero, _, none⟩
  · rcases settled_cases id next with ⟨also, _⟩ | ⟨_, unmarked, released⟩
    · omega
    · have holding := why.resolve_left fun before => unmarked (marked before)
      omega
  · omega

theorem held_sent {index : Nat} (loaded : s.unsyncedSales[index]? = some sale) :
    s.held id = (s.unsyncedSales.eraseIdx index).countP (fun sale => sale.id = id) + if sale.id = id then 1 else 0 := by
  obtain ⟨inside, rfl⟩ := List.getElem?_eq_some_iff.mp loaded
  have counted := (List.getElem_cons_eraseIdx_perm inside).countP_eq (fun sale => decide (sale.id = id))
  rw [List.countP_cons] at counted
  simpa [ZohoSystem.held] using counted.symm

theorem marked_same {next : ZohoSystem} (same : next.db = s.db) : next.marked id = s.marked id := by
  rw [ZohoSystem.marked, same, ZohoSystem.marked]

theorem markSaleAsSynced_marked {saleID : String} {next : ZohoSystem} (written : next.db = s.db.markSaleAsSynced saleID)
    (stored : (s.db.sales.find? saleID).isSome) :
    next.marked id = (s.marked id || decide (saleID = id)) := by
  rw [ZohoSystem.marked, written, Store.markSaleAsSynced, Table.find?_modify, ZohoSystem.marked]
  by_cases own : saleID = id
  · obtain ⟨row, found⟩ := Option.isSome_iff_exists.mp stored
    subst own
    simp [found]
  · simp [own, Ne.symm own]

theorem sends_eq (written : Bool → Bool) (index : Nat) (answer : ZohoAnswer) (loaded : s.unsyncedSales[index]? = some sale) :
    ZohoStep.sends id written (.send index answer) s =
      if sale.id = id ∧ answer.taken = true ∧ written answer.marked = true then 1 else 0 := by
  simp [ZohoStep.sends, loaded, and_assoc]

theorem sends_le_one (id : String) (written : Bool → Bool) (step : ZohoStep) (s : ZohoSystem) : step.sends id written s ≤ 1 := by
  unfold ZohoStep.sends
  split
  · split <;> omega
  · omega

theorem takes_split (step : ZohoStep) (s : ZohoSystem) : step.takes id s = step.marks id s + step.misses id s := by
  unfold ZohoStep.takes ZohoStep.marks ZohoStep.misses
  cases step with
  | call | elsewhere | load => rfl
  | send index answer => cases written : answer.marked <;> simp [ZohoStep.sends, written]

/-- A sent sale is held once less, and marked when the books took it and its update went through. -/
theorem send_delivery (sound : ZohoSound s) (index : Nat) (answer : ZohoAnswer) :
    (s.send index answer).held id + (ZohoStep.send index answer).takes id s ≤ s.held id ∧
      ((s.send index answer).marked id = true ↔
        s.marked id = true ∨ (ZohoStep.send index answer).marks id s = 1) := by
  unfold ZohoStep.takes ZohoStep.marks
  cases loaded : s.unsyncedSales[index]? with
  | none =>
    have same : s.send index answer = s := by simp only [ZohoSystem.send, loaded]
    rw [same]
    simp [ZohoStep.sends, loaded]
  | some sale =>
    rw [sends_eq _ _ _ loaded, sends_eq _ _ _ loaded]
    cases called : createZohoInvoice answer sale s.toZohoState with
    | none =>
      have ended : s.send index answer = s.restart := by simp only [ZohoSystem.send, loaded, called]
      have untaken := createZohoInvoice_none called
      rw [ended, marked_same (show s.restart.db = s.db from rfl)]
      simp [untaken, ZohoSystem.held, ZohoSystem.restart]
    | some outcome =>
      have sent : s.send index answer = ⟨outcome.1, s.unsyncedSales.eraseIdx index⟩ := by
        simp only [ZohoSystem.send, loaded, called]
      have held : (s.send index answer).held id =
          (s.unsyncedSales.eraseIdx index).countP fun sale => sale.id = id := by
        rw [sent]
        rfl
      have db : outcome.1.db = _ := createZohoInvoice_db called
      refine ⟨?_, ?_⟩
      · rw [held, held_sent loaded]
        by_cases own : sale.id = id
        · rw [if_pos own]
          exact Nat.add_le_add_left (by split <;> simp) _
        · simp [own]
      · by_cases both : answer.taken = true ∧ answer.marked = true
        · rw [if_pos both] at db
          have stored := sound.loaded sale (List.mem_of_getElem? loaded)
          have written : (s.send index answer).db = s.db.markSaleAsSynced sale.id := by
            rw [sent]
            exact db
          rw [markSaleAsSynced_marked written stored]
          simp [both]
        · rw [if_neg both] at db
          have same : (s.send index answer).db = s.db := by
            rw [sent]
            exact db
          rw [marked_same same]
          have quiet : ¬(sale.id = id ∧ answer.taken = true ∧ answer.marked = true) := fun all => both all.2
          simp [quiet]

/-- The sale waits for a pass exactly when it is stored without a mark, and only once. -/
theorem unsynced_count (db : Store) (id : String) :
    db.getUnsyncedSales.countP (fun sale => sale.id = id) =
      if (db.sales.find? id).any (fun row => !row.zohoSynced) = true then 1 else 0 := by
  have waiting : db.getUnsyncedSales.countP (fun sale => sale.id = id) =
      (db.sales.filter fun row => row.zohoSynced = false).rows.countP fun row => row.id = id := by
    rw [Store.getUnsyncedSales, List.countP_map]
    rfl
  rw [waiting, Table.count_key, Table.find?_filter]
  cases db.sales.find? id with
  | none => rfl
  | some row => cases synced : row.zohoSynced <;> simp [synced, Option.filter_some]

theorem load_held (config : Except String (Option ZohoConfig)) (queried : Bool) :
    (s.load config queried).held id ≤ s.held id ∨
      (s.load config queried).held id = s.held id + 1 ∧ ¬s.marked id = true := by
  unfold ZohoSystem.load
  split
  · exact .inl (Nat.zero_le _)
  · split
    · exact .inl le_rfl
    · have held : ({ s with unsyncedSales := s.unsyncedSales ++ s.db.getUnsyncedSales } : ZohoSystem).held id =
          s.held id + s.db.getUnsyncedSales.countP fun sale => sale.id = id := List.countP_append
      rw [held, unsynced_count]
      split
      · rename_i waits
        refine .inr ⟨rfl, ?_⟩
        unfold ZohoSystem.marked
        cases found : s.db.sales.find? id with
        | none => simp
        | some row => simpa [found] using waits
      · exact .inl le_rfl

/-- A mark stays, and only a step that sends the sale writes it on a stored row. -/
theorem step_marked (sound : ZohoSound s) (step : ZohoStep) (stored : (s.db.sales.find? id).isSome) :
    (step.next s).marked id = true ↔ s.marked id = true ∨ step.marks id s = 1 := by
  have elsewhere : ∀ {next : ZohoSystem}, (next.db.sales.find? id).map SaleRow.zohoSynced =
      (s.db.sales.find? id).map SaleRow.zohoSynced → (next.marked id = true ↔ s.marked id = true) := by
    intro next same
    have either : ∀ row : Option SaleRow, row.any SaleRow.zohoSynced = (row.map SaleRow.zohoSynced).any (fun synced => synced) := by
      intro row
      cases row <;> rfl
    rw [ZohoSystem.marked, either, same, ← either]
    rfl
  cases step with
  | call env c =>
    have none : (ZohoStep.call env c).marks id s ≠ 1 := Nat.zero_ne_one
    rw [or_iff_left none]
    refine elsewhere ?_
    by_cases accepted : (c.body .exact env).accepts s.db
    · obtain ⟨row, found⟩ := Option.isSome_iff_exists.mp stored
      obtain ⟨after, now, same⟩ := call_synced (does_accepted accepted) found
      have now' : ((ZohoStep.call env c).next s).db.sales.find? id = some after := now
      rw [now', found, Option.map_some, Option.map_some, same]
    · have same : ((ZohoStep.call env c).next s).db = s.db := (commit_rejected accepted).1
      rw [same]
  | elsewhere change keeps =>
    have none : (ZohoStep.elsewhere change keeps).marks id s ≠ 1 := Nat.zero_ne_one
    rw [or_iff_left none]
    exact elsewhere (congrArg (fun t : Table SaleRow.id => (t.find? id).map SaleRow.zohoSynced) (keeps s.db).1)
  | load config queried =>
    have none : (ZohoStep.load config queried).marks id s ≠ 1 := Nat.zero_ne_one
    rw [or_iff_left none, marked_same (show ((ZohoStep.load config queried).next s).db = s.db from (load_keeps _ _).1)]
  | send index answer => exact (send_delivery sound index answer).2

theorem stored_of_marked (marked : s.marked id = true) : (s.db.sales.find? id).isSome := by
  cases found : s.db.sales.find? id with
  | none => simp [ZohoSystem.marked, found] at marked
  | some row => rfl

/-- What the books take beyond what the passes held before is paid for by a new mark, by a mark that
was not written or by an overlap. -/
theorem step_delivery (sound : ZohoSound s) (step : ZohoStep) :
    (step.next s).held id + step.takes id s + s.settled id ≤
      s.held id + step.misses id s + step.overlaps id s + (step.next s).settled id := by
  have stays : s.marked id = true → (step.next s).marked id = true := fun marked =>
    (step_marked sound step (stored_of_marked marked)).mpr (.inl marked)
  have least : ∀ system : ZohoSystem, system.settled id ≤ 1 := fun system => by
    rcases settled_cases id system with ⟨one, _⟩ | ⟨zero, _⟩ <;> omega
  cases step with
  | call env c => exact quiet_delivery stays le_rfl
  | elsewhere change keeps => exact quiet_delivery stays le_rfl
  | load config queried =>
    change (s.load config queried).held id + 0 + s.settled id ≤
      s.held id + 0 + (if 0 < s.held id ∧ s.held id < (s.load config queried).held id then 1 else 0) +
        (s.load config queried).settled id
    rcases @load_held s id config queried with fewer | ⟨more, unmarked⟩
    · have quiet := quiet_delivery stays fewer
      change (s.load config queried).held id + s.settled id ≤ s.held id + (s.load config queried).settled id at quiet
      omega
    · have settled : (s.load config queried).settled id = 1 := if_pos (.inr (by omega))
      rcases settled_cases id s with ⟨one, why⟩ | ⟨zero, _⟩
      · have holding := why.resolve_left unmarked
        rw [if_pos ⟨holding, by omega⟩]
        omega
      · omega
  | send index answer =>
    have split := @takes_split id (.send index answer) s
    obtain ⟨held, marked⟩ := @send_delivery s id sound index answer
    change (s.send index answer).held id + _ + s.settled id ≤ s.held id + _ + 0 + (s.send index answer).settled id
    rcases Nat.eq_zero_or_pos ((ZohoStep.send index answer).marks id s) with unmarked | written
    · have quiet := @quiet_delivery s id (s.send index answer) stays (by omega)
      have before := least s
      rcases Nat.eq_zero_or_pos ((ZohoStep.send index answer).misses id s) with kept | missed <;> omega
    · have one := Nat.le_antisymm (sends_le_one id _ (.send index answer) s) written
      have settled := settled_of_marked (marked.mpr (.inr one))
      have before := least s
      omega

/-- A sale that is marked and that no pass holds stays so, and the books do not get it. -/
theorem step_settled (sound : ZohoSound s) (step : ZohoStep) (marked : s.marked id = true) (free : s.held id = 0) :
    (step.next s).marked id = true ∧ (step.next s).held id = 0 ∧ step.takes id s = 0 := by
  refine ⟨(step_marked sound step (stored_of_marked marked)).mpr (.inl marked), ?_⟩
  cases step with
  | call env c => exact ⟨free, rfl⟩
  | elsewhere change keeps => exact ⟨free, rfl⟩
  | load config queried =>
    refine ⟨?_, rfl⟩
    rcases @load_held s id config queried with fewer | ⟨_, unmarked⟩
    · exact Nat.le_zero.mp (free ▸ fewer)
    · exact absurd marked unmarked
  | send index answer =>
    have held := (@send_delivery s id sound index answer).1
    rw [free] at held
    change (s.send index answer).held id = 0 ∧ _
    omega

end Steps

section Runs

variable {step : ZohoStep} {steps : List ZohoStep} {s : ZohoSystem} {id : String}

theorem run_delivery (sound : ZohoSound s) (steps : List ZohoStep) :
    (s.run steps).held id + tally (ZohoStep.takes id) steps s + s.settled id ≤
      s.held id + tally (ZohoStep.misses id) steps s + tally (ZohoStep.overlaps id) steps s + (s.run steps).settled id := by
  induction steps generalizing s with
  | nil => simp [tally, ZohoSystem.run]
  | cons step steps ih =>
    have first := @step_delivery s id sound step
    have rest := ih (sound.next step)
    change (ZohoSystem.run steps (step.next s)).held id + (_ + _) + _ ≤ _ + (_ + _) + (_ + _) +
      (ZohoSystem.run steps (step.next s)).settled id
    omega

theorem run_marked (sound : ZohoSound s) (stored : (s.db.sales.find? id).isSome) (steps : List ZohoStep) :
    (s.run steps).marked id = true ↔ s.marked id = true ∨ tally (ZohoStep.marks id) steps s ≠ 0 := by
  induction steps generalizing s with
  | nil => simp [tally, ZohoSystem.run]
  | cons step steps ih =>
    have most : step.marks id s ≤ 1 := sends_le_one id _ step s
    have rest := ih (sound.next step) (step_stored step stored)
    change (ZohoSystem.run steps (step.next s)).marked id = true ↔ _ ∨ step.marks id s + _ ≠ 0
    rw [rest, step_marked sound step stored, or_assoc]
    exact or_congr_right (by omega)

theorem run_settled (sound : ZohoSound s) (marked : s.marked id = true) (free : s.held id = 0) (steps : List ZohoStep) :
    tally (ZohoStep.takes id) steps s = 0 := by
  induction steps generalizing s with
  | nil => rfl
  | cons step steps ih =>
    obtain ⟨still, released, quiet⟩ := step_settled sound step marked free
    rw [tally, quiet, ih (sound.next step) still released]

end Runs

/-- In every run from a system without sales the books take a sale at most once more than there are
invoices of it that they took without the mark being written, and passes that loaded it while
another one still held it. -/
theorem zoho_takes_bounded (start : ZohoSystem) (fresh : start.Fresh) (steps : List ZohoStep) (id : String) :
    tally (ZohoStep.takes id) steps start ≤
      1 + tally (ZohoStep.misses id) steps start + tally (ZohoStep.overlaps id) steps start := by
  have bound := @run_delivery start id fresh.sound steps
  have none : start.held id = 0 := by simp [ZohoSystem.held, fresh.unsynced]
  rcases settled_cases id (start.run steps) with ⟨one, _⟩ | ⟨zero, _⟩ <;> omega

/-- Two passes that overlap bring a sale to the books twice. -/
def overlappingPasses : List ZohoStep :=
  [teasSold 0, .load linked true, .load linked true, .send 0 created, .send 0 created]

theorem zoho_takes_bounded_twice :
    tally (ZohoStep.takes "s1") overlappingPasses bookedShop = 2 ∧
      tally (ZohoStep.takes "s1") overlappingPasses bookedShop ≤
        1 + tally (ZohoStep.misses "s1") overlappingPasses bookedShop +
          tally (ZohoStep.overlaps "s1") overlappingPasses bookedShop :=
  ⟨by decide +kernel, zoho_takes_bounded bookedShop ⟨rfl, rfl, rfl⟩ overlappingPasses "s1"⟩

/-- A sale waits for the next pass until the books took it and the mark was written, whatever happens
in between; one that its request already marks never reaches them. -/
theorem zoho_waits (start : ZohoSystem) (fresh : start.Fresh) (before after : List ZohoStep) (env : Env)
    (actor : Actor) (request : Sale) (accepted : (processSaleAs .exact env actor request).accepts (start.run before).db) :
    let id := (stampSale env request).id
    let sold := (ZohoStep.call env (.processSale actor request)).next (start.run before)
    ((∃ sale ∈ (sold.run after).db.getUnsyncedSales, sale.id = id) ↔
      request.zohoSynced = false ∧ tally (ZohoStep.marks id) after sold = 0) ∧
    (request.zohoSynced = true → tally (ZohoStep.takes id) after sold = 0) := by
  intro id sold
  have sound : ZohoSound (start.run before) := fresh.sound.run before
  have does := does_accepted accepted
  obtain ⟨facts, _⟩ := processSaleAs_does does
  have row : sold.db.sales.find? id = some (pricedSale .exact env (start.run before).db request).toSaleRow := sold_row does
  have marked : sold.marked id = request.zohoSynced := by
    rw [ZohoSystem.marked, row]
    rfl
  have free : sold.held id = 0 := by
    refine List.countP_eq_zero.mpr fun sale member same => ?_
    have stored := sound.loaded sale member
    rw [of_decide_eq_true same, facts.fresh] at stored
    cases stored
  refine ⟨?_, fun synced => run_settled (sound.next _) (marked.trans synced) free after⟩
  have stored : (sold.db.sales.find? id).isSome := by
    rw [row]
    rfl
  obtain ⟨last, found, _⟩ := run_total after row
  have written : (sold.run after).marked id = true ↔ sold.marked id = true ∨ tally (ZohoStep.marks id) after sold ≠ 0 :=
    run_marked (sound.next _) stored after
  have now : (sold.run after).marked id = last.zohoSynced := by
    rw [ZohoSystem.marked, found]
    rfl
  have waits : (∃ sale ∈ (sold.run after).db.getUnsyncedSales, sale.id = id) ↔ last.zohoSynced = false := by
    have counted := unsynced_count (sold.run after).db id
    rw [found] at counted
    have counts : (∃ sale ∈ (sold.run after).db.getUnsyncedSales, sale.id = id) ↔
        0 < (sold.run after).db.getUnsyncedSales.countP (fun sale => sale.id = id) := by simp [List.countP_pos_iff]
    rw [counts, counted]
    cases synced : last.zohoSynced <;> simp [synced]
  rw [now, marked] at written
  rw [waits, ← Bool.not_eq_true, written, not_or, Bool.not_eq_true, not_not]

/-- A sale of two teas waits after an interrupted pass, and no longer after one that the books answered. -/
theorem zoho_waits_teas :
    let sold := (teasSold 0).next bookedShop
    (∃ sale ∈ (sold.run [.load linked true]).db.getUnsyncedSales, sale.id = "s1") ∧
      ¬∃ sale ∈ (sold.run [.load linked true, .send 0 created]).db.getUnsyncedSales, sale.id = "s1" := by
  have waits (after : List ZohoStep) := (zoho_waits bookedShop ⟨rfl, rfl, rfl⟩ [] after till
    { sara with permissions := [PermDiscounts] } { teaSale "s1" "" .cash none none 2 with discount := 0 }
    (by decide +kernel)).1
  refine ⟨(waits _).mpr (by decide +kernel), fun still => ?_⟩
  exact absurd ((waits _).mp still).2 (by decide +kernel)

end BeidarPos
