import BeidarPos.CloudBackup
import BeidarPos.Base64
import BeidarPos.DatabaseRestore

/-! Backups that are listed are whole. A backup is uploaded in pieces of its text with the first
piece last, any request may fail, and what a failed upload leaves stays at the server; a
restore joins the pieces in their order. -/
namespace BeidarPos

open Relational

section Pieces

/-- The bytes of a text. -/
def utf8 (s : String) : Bytes := s.toList.flatMap String.utf8EncodeChar

def cutBytes (chunkSize : Nat) : Nat → Bytes → List Bytes
  | 0, _ => []
  | fuel + 1, s =>
    if s = [] then []
    else if s.length < chunkSize then [s]
    else s.take chunkSize :: cutBytes chunkSize fuel (s.drop chunkSize)

/-- The pieces of any bytes. Every piece is a byte or more, so the length is fuel enough. -/
def splitBytesIntoChunks (s : Bytes) (chunkSize : Nat) : List Bytes := cutBytes chunkSize s.length s

variable {chunkSize : Nat}

theorem cutBytes_flatten (positive : 0 < chunkSize) (fuel : Nat) (s : Bytes) (enough : s.length ≤ fuel) :
    (cutBytes chunkSize fuel s).flatten = s := by
  induction fuel generalizing s with
  | zero => simp [cutBytes, List.length_eq_zero_iff.mp (Nat.le_zero.mp enough)]
  | succ fuel ih =>
    by_cases none : s = []
    · simp [cutBytes, none]
    · by_cases last : s.length < chunkSize
      · simp [cutBytes, none, last]
      · have shorter : (s.drop chunkSize).length ≤ fuel := by simp only [List.length_drop]; omega
        simp [cutBytes, none, last, ih _ shorter]

theorem cutBytes_sizes (positive : 0 < chunkSize) (fuel : Nat) (s : Bytes) :
    ∀ piece ∈ cutBytes chunkSize fuel s, piece ≠ [] ∧ piece.length ≤ chunkSize := by
  induction fuel generalizing s with
  | zero => simp [cutBytes]
  | succ fuel ih =>
    intro piece member
    by_cases none : s = []
    · simp [cutBytes, none] at member
    · by_cases last : s.length < chunkSize
      · simp only [cutBytes, none, if_false, last, if_true, List.mem_singleton] at member
        subst member
        exact ⟨none, last.le⟩
      · simp only [cutBytes, none, if_false, last, List.mem_cons] at member
        rcases member with rfl | later
        · refine ⟨fun empty => none ?_, List.length_take_le _ _⟩
          have length := congrArg List.length empty
          simp only [List.length_take, List.length_nil] at length
          exact List.length_eq_zero_iff.mp (by omega)
        · exact ih _ piece later

/-- Every text is cut into pieces that are not empty, are no longer than asked for, and join
to it. -/
theorem splitBytesIntoChunks_spec (positive : 0 < chunkSize) (s : Bytes) :
    (splitBytesIntoChunks s chunkSize).flatten = s ∧
      ∀ piece ∈ splitBytesIntoChunks s chunkSize, piece ≠ [] ∧ piece.length ≤ chunkSize :=
  ⟨cutBytes_flatten positive _ s le_rfl, cutBytes_sizes positive _ s⟩

theorem splitChars_join (positive : 0 < chunkSize) (fuel : Nat) (s : List Char) (enough : s.length ≤ fuel) :
    (splitChars chunkSize fuel s).flatMap String.toList = s := by
  induction fuel generalizing s with
  | zero => simp [splitChars, List.length_eq_zero_iff.mp (Nat.le_zero.mp enough)]
  | succ fuel ih =>
    by_cases none : s = []
    · simp [splitChars, none]
    · have shorter : (s.drop chunkSize).length ≤ fuel := by
        have some := List.length_pos_iff.mpr none
        simp only [List.length_drop]
        omega
      simp [splitChars, none, ih _ shorter]

theorem splitStringIntoChunks_join (positive : 0 < chunkSize) (s : String) :
    (splitStringIntoChunks s chunkSize).flatMap String.toList = s.toList :=
  splitChars_join positive _ s.toList le_rfl

theorem utf8EncodeChar_ascii {c : Char} (ascii : c.toNat < 128) : String.utf8EncodeChar c = [UInt8.ofNat c.toNat] := by
  have small : c.val.toNat ≤ 127 := Nat.lt_succ_iff.mp ascii
  exact if_pos small

theorem utf8_ascii {s : List Char} (ascii : ∀ c ∈ s, c.toNat < 128) :
    utf8 (String.ofList s) = s.map fun c => UInt8.ofNat c.toNat := by
  unfold utf8
  rw [String.toList_ofList]
  induction s with
  | nil => rfl
  | cons c s ih =>
    simp only [List.flatMap_cons, List.map_cons, utf8EncodeChar_ascii (ascii c List.mem_cons_self),
      ih fun c member => ascii c (List.mem_cons_of_mem _ member), List.singleton_append]

/-- Where each character is one byte, the pieces of the text are those of its bytes. -/
theorem splitChars_bytes (fuel : Nat) (s : List Char) (ascii : ∀ c ∈ s, c.toNat < 128) :
    (splitChars chunkSize fuel s).map utf8 = cutBytes chunkSize fuel (s.map fun c => UInt8.ofNat c.toNat) := by
  induction fuel generalizing s with
  | zero => rfl
  | succ fuel ih =>
    by_cases none : s = []
    · simp [splitChars, cutBytes, none]
    · have front : ∀ c ∈ s.take chunkSize, c.toNat < 128 := fun c member => ascii c (List.mem_of_mem_take member)
      have back : ∀ c ∈ s.drop chunkSize, c.toNat < 128 := fun c member => ascii c (List.mem_of_mem_drop member)
      by_cases last : s.length < chunkSize
      · have whole : s.take chunkSize = s := List.take_of_length_le last.le
        have nothing : s.drop chunkSize = [] := List.drop_eq_nil_of_le last.le
        have ended : splitChars chunkSize fuel [] = [] := by cases fuel <;> simp [splitChars]
        simp [splitChars, cutBytes, none, last, whole, nothing, ended, utf8_ascii ascii]
      · simp [splitChars, cutBytes, none, last, utf8_ascii front, ih _ back]

end Pieces

section Restore

/-- What the download of a backup decodes to: the rows that were asked for, or something else
with these texts. -/
inductive DownloadBody where
  | rows
  | other (data : List String)

/-- The rows of a backup in the order of their chunks. -/
def BackupStore.download (s : BackupStore) (userID backupID : String) : List BackupRow :=
  (s.rowsOf userID backupID).insertionSort fun a b => a.chunkIndex ≤ b.chunkIndex

def joinChunks (chunks : List String) : Except String Bytes :=
  if chunks = [] then .error "النسخة الاحتياطية غير موجودة"
  else
    match Base64.decode (chunks.flatMap String.toList) with
    | none => .error "فشل فك التشفير"
    | some compressed => .ok compressed

/-- The status of the answer is not looked at. -/
def restoreCloudBackup (env : BackupEnv) (fetch : Except String DownloadBody) (engine : Engine) (restore : RestoreEnv)
    (unzip : Bytes → Except String (List ZipEntry)) (backupID : String) (c : Cloud) (files : DatabaseFiles) :
    Except String Unit × Cloud × DatabaseFiles :=
  match signedIn env 0 c.device with
  | (.error e, d) => (.error e, { c with device := d }, files)
  | (.ok session, d) =>
    match fetch with
    | .error e => (.error e, { c with device := d }, files)
    | .ok body =>
      let chunks := match body with
        | .rows => (c.store.download session.userID backupID).map BackupRow.data
        | .other data => data
      match joinChunks chunks with
      | .error e => (.error e, { c with device := d }, files)
      | .ok compressed =>
        let restored := restoreFromCompressed engine restore unzip compressed files
        (restored.1, { c with device := d }, restored.2)

end Restore

section Runs

/-- The compressed database as it is sent. -/
def pack (compressed : Bytes) : Package := ⟨compressed.length, String.ofList (Base64.encode compressed)⟩

/-- A call of `cloudBackupNow`, with the bytes that came out of the compression. -/
structure BackupCall where
  met : BackupEnv
  compressed : Except String Bytes

def BackupCall.env (call : BackupCall) : BackupEnv := { call.met with compressed := call.compressed.map pack }

/-- A request that is answered as carried out was. It may fail all the same, or be carried
out and answered with a failure. -/
def BackupCall.Honest (call : BackupCall) : Prop :=
  ∀ i status, (call.met.upload i).answer = .ok status → status < 400 → (call.met.upload i).applied = true

/-- What happens to the backups of a user, with the backup calls that were made, the last one
first. Others may do anything but touch the rows of this user. -/
inductive CloudRun (user : String) (start : Cloud) : List BackupCall → Cloud → Prop where
  | start : CloudRun user start [] start
  | backup {calls c} (call : BackupCall) (run : CloudRun user start calls c) (honest : call.Honest) :
      CloudRun user start (call :: calls) (cloudBackupNow call.env c).2
  | delete {calls c} (env : BackupEnv) (backupID : String) (run : CloudRun user start calls c) :
      CloudRun user start calls (deleteCloudBackup env backupID c).2
  | elsewhere {calls c} (next : Cloud) (run : CloudRun user start calls c)
      (untouched : ∀ id, next.store.rowsOf user id = c.store.rowsOf user id) : CloudRun user start calls next

/-- The part of a row that a restore goes by. -/
def BackupRow.chunk (row : BackupRow) : Nat × Nat × String := (row.chunkIndex, row.totalChunks, row.data)

/-- The chunks of a text that were sent before a failure. -/
def sentChunks (text : String) (count : Nat) : List (Nat × Nat × String) :=
  let chunks := splitStringIntoChunks text MaxChunkSize
  ((uploadOrder chunks.length).take count).map fun i => (i, chunks.length, chunks.getD i "")

def backupIDOf (user stamp : String) : String := String.ofList (user.toList.take 8) ++ "_" ++ stamp

/-- These rows are what one of the calls could send. -/
def SentBy (user : String) (calls : List BackupCall) (id : String) (rows : List BackupRow) : Prop :=
  ∃ call ∈ calls, ∃ compressed count, call.compressed = .ok compressed ∧ id = backupIDOf user call.met.stamp ∧
    splitStringIntoChunks (pack compressed).encoded MaxChunkSize ≠ [] ∧
    rows.map BackupRow.chunk = sentChunks (pack compressed).encoded count

/-- Every backup of the user is what one call sent, whole or not. -/
def EachSent (user : String) (calls : List BackupCall) (s : BackupStore) : Prop :=
  ∀ id, s.rowsOf user id = [] ∨ SentBy user calls id (s.rowsOf user id)

variable {user : String} {calls : List BackupCall} {c start : Cloud}

/-- An honest upload sends its chunks in order, up to a failure. -/
theorem uploadChunks_sent {env : BackupEnv} {row : Nat → Nat → BackupRow} {stamped : ∀ i n, (row i n).createdAt = n}
    (honest : ∀ i status, (env.upload i).answer = .ok status → status < 400 → (env.upload i).applied = true)
    (chunk : Nat → Nat × Nat × String) (chunks : ∀ i n, (row i n).chunk = chunk i) (order : List Nat) (s : BackupStore) :
    ∃ extra count, (uploadChunks env row stamped order s).2.table.rows = s.table.rows ++ extra ∧
      extra.map BackupRow.chunk = (order.take count).map chunk := by
  induction order generalizing s with
  | nil => exact ⟨[], 0, by simp [uploadChunks], rfl⟩
  | cons i rest ih =>
    by_cases lands : (env.upload i).applied = true ∧ s.table.find? (row i s.clock).id = none
    · obtain ⟨next, posted, rows, -⟩ := @post_inserted s row stamped i _ lands.1 lands.2
      have once : [row i s.clock].map BackupRow.chunk = ((i :: rest).take 1).map chunk := by simp [chunks]
      rw [uploadChunks, posted]
      cases answered : (env.upload i).answer with
      | error e => exact ⟨[row i s.clock], 1, rows, once⟩
      | ok status =>
        by_cases refused : 400 ≤ status
        · simp only [refused, if_true]
          exact ⟨[row i s.clock], 1, rows, once⟩
        · simp only [refused, if_false]
          obtain ⟨more, count, rows', sent⟩ := ih next
          refine ⟨row i s.clock :: more, count + 1, by rw [rows', rows, List.append_assoc, List.singleton_append], ?_⟩
          simp [chunks, sent]
    · -- what does not land is answered with a failure
      have stops : ∃ answer, post (env.upload i) (row i) (stamped i) s = (answer, s) ∧
          ∀ status, answer = .ok status → 400 ≤ status := by
        by_cases applied : (env.upload i).applied = true
        · refine ⟨_, post_taken applied fun free => lands ⟨applied, free⟩, fun status answered => ?_⟩
          cases sent : (env.upload i).answer with
          | error e => simp [sent, Except.map] at answered
          | ok old =>
            simp only [sent, Except.map, Except.ok.injEq] at answered
            omega
        · refine ⟨_, post_unapplied applied, fun status answered => ?_⟩
          by_contra small
          exact applied (honest i status answered (by omega))
      obtain ⟨answer, posted, failed⟩ := stops
      refine ⟨[], 0, ?_, rfl⟩
      rw [uploadChunks, posted, List.append_nil]
      cases answer with
      | error e => rfl
      | ok status => simp only [failed status rfl, if_true]

/-- What a backup call adds is what its upload could send. -/
theorem uploadBackup_sent {call : BackupCall} (honest : call.Honest) (session : UserSession) (s : BackupStore) :
    ∃ extra, (uploadBackup call.env session s).2.table.rows = s.table.rows ++ extra ∧
      (∀ r ∈ extra, r.userID = session.userID ∧ r.backupID = session.backupID call.met.stamp) ∧
      (extra = [] ∨ ∃ compressed count, call.compressed = .ok compressed ∧
        splitStringIntoChunks (pack compressed).encoded MaxChunkSize ≠ [] ∧
        extra.map BackupRow.chunk = sentChunks (pack compressed).encoded count) := by
  obtain ⟨extra, rows, own, -⟩ := @uploadBackup_rows call.env session s
  refine ⟨extra, rows, fun r member => (own r member).2, ?_⟩
  by_cases nothing : extra = []
  · exact .inl nothing
  refine .inr ?_
  have moved : (uploadBackup call.env session s).2.table.rows ≠ s.table.rows := by
    rw [rows]
    exact fun same => nothing (List.append_right_eq_self.mp same)
  unfold uploadBackup at rows moved
  cases zipped : call.compressed with
  | error e => exact absurd (by simp [BackupCall.env, zipped, Except.map]) moved
  | ok compressed =>
    have packed : call.env.compressed = .ok (pack compressed) := by simp [BackupCall.env, zipped, Except.map]
    rw [packed] at rows moved
    dsimp only at rows moved
    split at moved
    · exact absurd rfl moved
    · rename_i fits
      rw [if_neg fits] at rows
      split at moved
      · exact absurd rfl moved
      · rename_i long
        rw [if_neg long] at rows
        cases cut : splitStringIntoChunks (pack compressed).encoded MaxChunkSize with
        | nil => exact absurd (by rw [cut]) moved
        | cons chunk chunks =>
          rw [cut] at rows
          obtain ⟨sent, count, rows', list⟩ := @uploadChunks_sent call.env
            (chunkRow session call.env.stamp (pack compressed) (chunk :: chunks)) (fun _ _ => rfl) honest
            (fun i => (i, (chunk :: chunks).length, (chunk :: chunks).getD i "")) (fun _ _ => rfl)
            (uploadOrder (chunks.length + 1)) s
          obtain rfl : extra = sent := List.append_cancel_left (rows.symm.trans rows')
          refine ⟨compressed, count, rfl, by simp [cut], ?_⟩
          rw [sentChunks, cut]
          exact list

theorem backupIDOf_injective {stamp other : String} (same : backupIDOf user stamp = backupIDOf user other) :
    stamp = other := by
  have lists := congrArg String.toList same
  simp only [backupIDOf, String.toList_append, List.append_assoc] at lists
  exact String.toList_injective (List.append_cancel_left (List.append_cancel_left lists))

theorem SentBy.more {id : String} {rows : List BackupRow} (sent : SentBy user calls id rows) (call : BackupCall) :
    SentBy user (call :: calls) id rows := by
  obtain ⟨call', member, rest⟩ := sent
  exact ⟨call', List.mem_cons_of_mem _ member, rest⟩

/-- A call clears backups of its user or leaves them, and adds to one only what it sends. -/
theorem backup_eachSent {call : BackupCall} (honest : call.Honest) (sent : EachSent user calls c.store)
    (fresh : ∀ earlier ∈ calls, earlier.met.stamp ≠ call.met.stamp) :
    EachSent user (call :: calls) (cloudBackupNow call.env c).2.store := by
  have goesOn : ∀ id, c.store.rowsOf user id = [] ∨ SentBy user (call :: calls) id (c.store.rowsOf user id) :=
    fun id => (sent id).imp_right fun old => old.more call
  intro id
  cases passed : signedIn call.env 0 c.device with
  | mk checked d =>
    cases checked with
    | error e =>
      have same : (cloudBackupNow call.env c).2.store = c.store := by simp only [cloudBackupNow, passed]
      rw [same]
      exact goesOn id
    | ok session =>
      have room := @makeRoom_store call.env { c with device := d } session (user_of_current (signedIn_ok passed).2)
      have next : (cloudBackupNow call.env c).2.store =
          (uploadBackup call.env session (makeRoom call.env session { c with device := d }).store).2 := by
        simp only [cloudBackupNow, passed]
      have before : (makeRoom call.env session { c with device := d }).store.rowsOf user id = [] ∨
          (makeRoom call.env session { c with device := d }).store.rowsOf user id = c.store.rowsOf user id := by
        rw [room]
        split
        · exact .inr rfl
        · rw [rowsOf_delete]
          split
          · exact .inl rfl
          · exact .inr rfl
      obtain ⟨extra, rows, own, list⟩ := uploadBackup_sent honest session
        (makeRoom call.env session { c with device := d }).store
      rw [next, rowsOf_append rows]
      by_cases mine : session.userID = user ∧ id = backupIDOf user call.met.stamp
      · obtain ⟨rfl, rfl⟩ := mine
        have unused : c.store.rowsOf session.userID (backupIDOf session.userID call.met.stamp) = [] := by
          rcases sent (backupIDOf session.userID call.met.stamp) with none | ⟨old, member, _, _, _, name, _⟩
          · exact none
          · exact absurd (backupIDOf_injective name).symm (fresh old member)
        have cleared := before.elim id fun same => same.trans unused
        have all : extra.filter (fun row => row.userID = session.userID ∧
            row.backupID = backupIDOf session.userID call.met.stamp) = extra :=
          List.filter_eq_self.mpr fun row member => decide_eq_true (own row member)
        rw [cleared, List.nil_append, all]
        rcases list with rfl | ⟨compressed, count, zipped, some, chunks⟩
        · exact .inl rfl
        · exact .inr ⟨call, List.mem_cons_self, compressed, count, zipped, rfl, some, chunks⟩
      · have none : extra.filter (fun row => row.userID = user ∧ row.backupID = id) = [] := by
          refine List.filter_eq_nil_iff.mpr fun row member found => mine ?_
          obtain ⟨owner, name⟩ := of_decide_eq_true found
          obtain ⟨owner', name'⟩ := own row member
          obtain rfl := owner'.symm.trans owner
          exact ⟨rfl, name.symm.trans name'⟩
        rw [none, List.append_nil]
        rcases before with cleared | same
        · exact .inl cleared
        · rw [same]
          exact goesOn id

theorem delete_eachSent (env : BackupEnv) (backupID : String) (sent : EachSent user calls c.store) :
    EachSent user calls (deleteCloudBackup env backupID c).2.store := by
  intro id
  unfold deleteCloudBackup
  split
  · exact sent id
  · dsimp only
    split
    · rw [rowsOf_delete]
      split
      · exact .inl rfl
      · exact sent id
    · exact sent id

theorem CloudRun.eachSent (run : CloudRun user start calls c) (empty : ∀ id, start.store.rowsOf user id = [])
    (distinct : (calls.map fun call => call.met.stamp).Nodup) : EachSent user calls c.store := by
  induction run with
  | start => exact fun id => .inl (empty id)
  | backup call run honest ih =>
    rw [List.map_cons, List.nodup_cons] at distinct
    exact backup_eachSent honest (ih distinct.2) fun earlier member same =>
      distinct.1 (List.mem_map.mpr ⟨earlier, member, same⟩)
  | delete env backupID run ih => exact delete_eachSent env backupID (ih distinct)
  | elsewhere next run untouched ih =>
    intro id
    rw [untouched]
    exact ih distinct id

end Runs

section Whole

variable {user : String} {s : BackupStore} {id text : String} {count : Nat}

theorem uploadOrder_last {n : Nat} (some : 0 < n) : uploadOrder n = List.range' 1 (n - 1) ++ [0] := by
  unfold uploadOrder
  split
  · rfl
  · obtain rfl : n = 1 := by omega
    rfl

theorem uploadOrder_perm {n : Nat} (some : 0 < n) : (uploadOrder n).Perm (List.range n) := by
  obtain ⟨m, rfl⟩ : ∃ m, n = m + 1 := ⟨n - 1, by omega⟩
  rw [uploadOrder_last some, List.range_eq_range', List.range'_succ]
  exact List.perm_append_comm

/-- Chunk 0 is the last one sent, so it is there only when all are. -/
theorem uploadOrder_marked {n : Nat} (some : 0 < n) (marked : 0 ∈ (uploadOrder n).take count) :
    (uploadOrder n).take count = uploadOrder n := by
  rw [uploadOrder_last some] at marked ⊢
  refine List.take_of_length_le ?_
  by_contra short
  simp only [List.length_append, List.length_range', List.length_singleton] at short
  rw [List.take_append_of_le_length (by simp; omega)] at marked
  have first := List.mem_range'.mp (List.mem_of_mem_take marked)
  obtain ⟨i, -, same⟩ := first
  omega

theorem getD_range (chunks : List String) : (List.range chunks.length).map (fun i => chunks.getD i "") = chunks := by
  refine List.ext_getElem (by simp) fun i low high => ?_
  simp [List.getD_eq_getElem?_getD, high]

/-- With its first chunk, a backup has all of them, and a download puts them in order. -/
theorem sent_whole (cut : splitStringIntoChunks text MaxChunkSize ≠ [])
    (sent : (s.rowsOf user id).map BackupRow.chunk = sentChunks text count)
    {first : BackupRow} (member : first ∈ s.rowsOf user id) (marked : first.chunkIndex = 0) :
    first.totalChunks = (splitStringIntoChunks text MaxChunkSize).length ∧
      (s.download user id).map BackupRow.chunkIndex =
        List.range (splitStringIntoChunks text MaxChunkSize).length ∧
      (s.download user id).map BackupRow.data = splitStringIntoChunks text MaxChunkSize := by
  have some := List.length_pos_iff.mpr cut
  have content : ∀ row ∈ s.rowsOf user id, row.totalChunks = (splitStringIntoChunks text MaxChunkSize).length ∧
      row.data = (splitStringIntoChunks text MaxChunkSize).getD row.chunkIndex "" := by
    intro row stored
    have listed := List.mem_map_of_mem (f := BackupRow.chunk) stored
    rw [sent] at listed
    obtain ⟨i, -, same⟩ := List.mem_map.mp listed
    obtain ⟨index, total, data⟩ := Prod.mk.inj same |>.imp_right Prod.mk.inj
    exact ⟨total.symm, by rw [← data, index]⟩
  have indices : (s.rowsOf user id).map BackupRow.chunkIndex =
      (uploadOrder (splitStringIntoChunks text MaxChunkSize).length).take count := by
    have firsts := congrArg (List.map Prod.fst) sent
    simpa [sentChunks, BackupRow.chunk, Function.comp_def] using firsts
  have all : ((s.rowsOf user id).map BackupRow.chunkIndex).Perm
      (List.range (splitStringIntoChunks text MaxChunkSize).length) := by
    have zero : 0 ∈ (uploadOrder (splitStringIntoChunks text MaxChunkSize).length).take count := by
      rw [← indices, ← marked]
      exact List.mem_map_of_mem member
    rw [indices, uploadOrder_marked some zero]
    exact uploadOrder_perm some
  have sorted : (s.download user id).map BackupRow.chunkIndex =
      ((s.rowsOf user id).map BackupRow.chunkIndex).insertionSort (· ≤ ·) :=
    List.map_insertionSort _ _ BackupRow.chunkIndex _ fun _ _ _ _ => Iff.rfl
  have inOrder : (s.download user id).map BackupRow.chunkIndex =
      List.range (splitStringIntoChunks text MaxChunkSize).length := by
    rw [sorted]
    exact ((List.perm_insertionSort _ _).trans all).eq_of_sortedLE List.sortedLE_insertionSort
      (List.sortedLT_range _).sortedLE
  refine ⟨(content first member).1, inOrder, ?_⟩
  calc (s.download user id).map BackupRow.data
      = ((s.download user id).map BackupRow.chunkIndex).map fun i =>
          (splitStringIntoChunks text MaxChunkSize).getD i "" := by
        rw [List.map_map]
        exact List.map_congr_left fun row stored => (content row ((List.mem_insertionSort _).mp stored)).2
    _ = splitStringIntoChunks text MaxChunkSize := by rw [inOrder, getD_range]

/-- The pieces of a packed database decode to its bytes. -/
theorem joinChunks_pack {compressed : Bytes}
    (cut : splitStringIntoChunks (pack compressed).encoded MaxChunkSize ≠ []) :
    joinChunks (splitStringIntoChunks (pack compressed).encoded MaxChunkSize) = .ok compressed := by
  have joined := @splitStringIntoChunks_join MaxChunkSize (by decide) (pack compressed).encoded
  rw [joinChunks, if_neg cut, joined]
  simp [pack, Base64.decode_encode]

theorem listed_row {backup : CloudBackup} (listed : backup ∈ s.listed user) :
    ∃ row ∈ s.rowsOf user backup.id, row.chunkIndex = 0 ∧ row.totalChunks = backup.chunks := by
  obtain ⟨row, member, rfl⟩ := List.mem_map.mp listed
  obtain ⟨stored, owner, first⟩ : row ∈ s.table.rows ∧ row.userID = user ∧ row.chunkIndex = 0 := by
    simpa using member
  exact ⟨row, List.mem_filter.mpr ⟨stored, by simp [owner]⟩, first, rfl⟩

end Whole

/-- After any run, each backup that is listed has all its chunks, and a restore gets the bytes
that one of the calls compressed. -/
theorem listed_backups_whole (user : String) (start c : Cloud) (calls : List BackupCall)
    (empty : ∀ id, start.store.rowsOf user id = []) (run : CloudRun user start calls c)
    (distinct : (calls.map fun call => call.met.stamp).Nodup) :
    (∀ backup ∈ c.store.listed user, ∃ call ∈ calls, ∃ compressed, call.compressed = .ok compressed ∧
      backup.id = backupIDOf user call.met.stamp ∧
      (c.store.download user backup.id).map BackupRow.chunkIndex = List.range backup.chunks ∧
      (c.store.download user backup.id).map (fun row => utf8 row.data) =
        splitBytesIntoChunks (utf8 (String.ofList (Base64.encode compressed))) MaxChunkSize ∧
      joinChunks ((c.store.download user backup.id).map BackupRow.data) = .ok compressed) ∧
    ∀ (s : Bytes) (chunkSize : Nat), 0 < chunkSize →
      (splitBytesIntoChunks s chunkSize).flatten = s ∧
        ∀ piece ∈ splitBytesIntoChunks s chunkSize, piece ≠ [] ∧ piece.length ≤ chunkSize := by
  refine ⟨fun backup listed => ?_, fun s chunkSize positive => splitBytesIntoChunks_spec positive s⟩
  obtain ⟨row, member, first, total⟩ := listed_row listed
  have someRows := List.ne_nil_of_mem member
  obtain ⟨call, called, compressed, count, zipped, name, cut, sent⟩ :=
    (run.eachSent empty distinct backup.id).resolve_left someRows
  obtain ⟨whole, inOrder, data⟩ := sent_whole cut sent member first
  have ascii := fun c member => (Base64.encode_plain compressed c member).2
  refine ⟨call, called, compressed, zipped, name, by rw [inOrder, ← whole, total], ?_, ?_⟩
  · calc (c.store.download user backup.id).map (fun row => utf8 row.data)
        = (splitStringIntoChunks (pack compressed).encoded MaxChunkSize).map utf8 := by
          rw [← data, List.map_map]
          rfl
      _ = splitBytesIntoChunks (utf8 (String.ofList (Base64.encode compressed))) MaxChunkSize := by
          rw [splitStringIntoChunks, splitBytesIntoChunks, pack, String.toList_ofList, utf8_ascii ascii,
            splitChars_bytes _ _ ascii, List.length_map]
  · rw [data]
    exact joinChunks_pack cut

section Tea

theorem nothing_stored (row : BackupRow) (member : row ∈ (Table.empty : Table BackupRow.id).rows) : row.createdAt < 0 :=
  absurd member List.not_mem_nil

/-- The tea shop before its first backup. -/
def newCloud : Cloud := ⟨teaCloud.device, ⟨.empty, 0, nothing_stored⟩⟩

/-- The server refuses the upload. -/
def refusedBackup : BackupCall where
  met := { packingFails with upload := fun _ => ⟨false, .ok 500⟩ }
  compressed := .ok [80, 75, 3, 4]

/-- A second later it takes it. -/
def takenBackup : BackupCall where
  met := { packingFails with stamp := "1970-01-01_00-00-02" }
  compressed := .ok [80, 75, 3, 4, 1]

def twoBackups : Cloud := (cloudBackupNow takenBackup.env (cloudBackupNow refusedBackup.env newCloud).2).2

theorem twoBackups_run : CloudRun "tea-shop-1" newCloud [takenBackup, refusedBackup] twoBackups := by
  refine .backup takenBackup (.backup refusedBackup .start ?_) ?_
  · intro i status answered small
    obtain rfl := Except.ok.inj answered
    exact absurd small (by decide)
  · exact fun _ _ _ _ => rfl

end Tea

/-- The upload that was taken is listed, and comes back. -/
theorem listed_backups_whole_tea :
    (twoBackups.store.listed "tea-shop-1").map CloudBackup.id = ["tea-shop_1970-01-01_00-00-02"] ∧
      joinChunks ((twoBackups.store.download "tea-shop-1" "tea-shop_1970-01-01_00-00-02").map BackupRow.data) =
        .ok [80, 75, 3, 4, 1] := by
  have listed : twoBackups.store.listed "tea-shop-1" =
      [⟨"tea-shop_1970-01-01_00-00-02", "tea-shop-1", "Tea", 5, 1, 0⟩] := by decide +kernel
  refine ⟨by rw [listed]; rfl, ?_⟩
  obtain ⟨call, called, compressed, zipped, name, -, -, joined⟩ :=
    (listed_backups_whole "tea-shop-1" newCloud twoBackups [takenBackup, refusedBackup] (fun _ => rfl) twoBackups_run
      (by decide)).1 _ (listed ▸ List.mem_singleton_self _)
  rcases List.mem_pair.mp called with rfl | rfl
  · obtain rfl := Except.ok.inj zipped
    exact joined
  · exact absurd name (by decide +kernel)

end BeidarPos
