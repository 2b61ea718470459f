import I2cTopology.Proofs.Bus.Board

/-!
# Transactions and injected faults in turn

What may happen to a simulated board with no server in front of it: transactions, and faults injected between them.

- a transaction fails for one of four reasons (`SimBoard.Fails`), and what it leaves goes with the way in which it ends
  (`SimBoard.ended_transact`);
- so it meets the oldest fault that waits for its address, if there is one, and takes out just that one; if it fails,
  for whatever reason, it leaves nothing else but its record, and if it succeeds it moves one latch or one device at
  most (`SimBoard.effect_transact`);
- so over a whole run each address has a queue of faults of its own (`SimBoard.waiting_run`), which come back in the
  order of their injection, each of them once and to a transaction with the address (`SimBoard.faults_in_turn`).
-/

namespace I2cTopology

/-! ## A device on its own -/

/-- A transaction with a device: the number of bytes read, the buffer and the device afterwards. -/
def SimDevice.exchange (d : SimDevice) (op : Op) (write : List UInt8) (buffer : Buffer) : (Nat × Buffer) × SimDevice :=
  match op with
  | .writeRead =>
    ((((d.write write).read buffer.length).1.length, ((d.write write).read buffer.length).1),
      ((d.write write).read buffer.length).2)
  | .writeReadBlock => ((d.write write).readBlock buffer, d.write write)

theorem SimDevice.toDevicePlace_write (d : SimDevice) (write : List UInt8) :
    (d.write write).toDevicePlace = d.toDevicePlace := by
  cases write <;> rfl

theorem SimDevice.toDevicePlace_exchange (d : SimDevice) (op : Op) (write : List UInt8) (buffer : Buffer) :
    (d.exchange op write buffer).2.toDevicePlace = d.toDevicePlace := by
  cases op <;> exact d.toDevicePlace_write write

namespace SimBoard

variable {b b' : SimBoard} {x : Exchange} {buffer : Buffer} {reply : Reply BusFault} {fault : BusFault}

/-! ## Waiting faults -/

/-- The faults that wait for an address, oldest first. -/
def waiting (b : SimBoard) (address : UInt8) : List BusFault := (b.faults.filter (·.1 == address)).map (·.2)

theorem waiting_failNext (b : SimBoard) (address : UInt8) (fault : BusFault) (a : UInt8) :
    (b.failNext address fault).waiting a = b.waiting a ++ if address = a then [fault] else [] := by
  unfold waiting failNext
  rw [List.filter_append, List.map_append]
  by_cases h : address = a
  · simp [h]
  · simp [h]

theorem head?_waiting (b : SimBoard) (address : UInt8) :
    (b.waiting address).head? = (b.faults.find? (·.1 == address)).map (·.2) := by
  unfold waiting
  rw [List.head?_map, List.head?_filter]

/-- Taking out the oldest fault of an address leaves its younger ones, and all those of other addresses. -/
theorem waiting_of_faults_eq {address : UInt8} (h : b'.faults = b.faults.eraseP (·.1 == address)) (a : UInt8) :
    b'.waiting a = if a = address then (b.waiting a).tail else b.waiting a := by
  unfold waiting
  rw [h]
  split
  · rename_i ha
    subst ha
    rw [KeyedList.filter_eraseP, List.map_tail]
  · rename_i ha
    rw [KeyedList.filter_eraseP_of_disjoint fun entry hentry => ?_]
    rw [beq_iff_eq] at hentry
    rw [beq_eq_false_iff_ne, hentry]
    exact Ne.symm ha

/-! ## How a transaction ends -/

/-- The board with one more transaction on record. -/
def record (b : SimBoard) (x : Exchange) (buffer : Buffer) : SimBoard :=
  { b with history := b.history ++ [⟨x, buffer.length⟩] }

theorem transact_of_no_fault (h : b.faults.find? (·.1 == x.address) = none) (buffer : Buffer) :
    b.transact x buffer =
      match b.muxes.find? (·.isAt x.controller x.port x.address) with
      | some m => (b.record x buffer).transactMux m x buffer
      | none => (b.record x buffer).transactDevice x buffer := by
  unfold transact
  simp only [h]
  rfl

/-- No fault waits for the address of a transaction. -/
def Clear (b : SimBoard) (x : Exchange) : Prop := b.waiting x.address = []

theorem Clear.eraseP_eq (h : b.Clear x) : b.faults.eraseP (·.1 == x.address) = b.faults := by
  have hhead := b.head?_waiting x.address
  rw [h, List.head?_nil, eq_comm, Option.map_eq_none_iff, List.find?_eq_none] at hhead
  exact List.eraseP_of_forall_not hhead

/-- The multiplexer that a transaction addresses. -/
def muxAt (b : SimBoard) (x : Exchange) : Option SimMux := b.muxes.find? (·.isAt x.controller x.port x.address)

/-- Why a transaction fails, and with which fault. -/
inductive Fails (b : SimBoard) (x : Exchange) : BusFault → Prop
  /-- A fault waits for its address; it is the oldest one that is met. -/
  | faulted {fault : BusFault} {rest : List BusFault} : b.waiting x.address = fault :: rest → Fails b x fault
  /-- A multiplexer cannot read the bytes. -/
  | unreadable {m} :
    b.Clear x → b.muxAt x = some m → x.write ≠ [] → m.descriptor.part.decode x.write = none → Fails b x .noAck
  /-- No device answers. -/
  | unanswered : b.Clear x → b.muxAt x = none → b.answering x = [] → Fails b x .noAck
  /-- Several devices answer. -/
  | contested {first second others} :
    b.Clear x → b.muxAt x = none → b.answering x = first :: second :: others → Fails b x .arbitrationLost

/-- The ways in which a transaction ends, each with its reply and the board that it leaves. -/
inductive Ended (b : SimBoard) (x : Exchange) (buffer : Buffer) : Reply BusFault → SimBoard → Prop
  /-- It fails, for whatever reason; the fault that it met is taken out, if there was one. -/
  | failed {fault : BusFault} :
    b.Fails x fault →
    Ended b x buffer ⟨.error fault, buffer⟩
      { b.record x buffer with faults := b.faults.eraseP (·.1 == x.address) }
  /-- A multiplexer is written nothing. -/
  | polled {m} :
    b.Clear x → b.muxAt x = some m → x.write = [] →
    Ended b x buffer ⟨.ok buffer.length, buffer.map fun _ => 0⟩ (b.record x buffer)
  /-- A multiplexer reads the bytes and switches. -/
  | switched {m segment} :
    b.Clear x → b.muxAt x = some m → x.write ≠ [] → m.descriptor.part.decode x.write = some segment →
    Ended b x buffer ⟨.ok buffer.length, buffer.map fun _ => 0⟩
      { b.record x buffer with muxes := connect x segment b.muxes }
  /-- One device answers. -/
  | answered {d i} :
    b.Clear x → b.muxAt x = none → b.answering x = [(d, i)] →
    Ended b x buffer ⟨.ok (d.exchange x.op x.write buffer).1.1, (d.exchange x.op x.write buffer).1.2⟩
      { b.record x buffer with devices := b.devices.set i (d.exchange x.op x.write buffer).2 }

/-- A transaction that fails without meeting a fault leaves its record only. -/
theorem Fails.ended_of_clear (h : b.Fails x fault) (hclear : b.Clear x) (buffer : Buffer) :
    b.Ended x buffer ⟨.error fault, buffer⟩ (b.record x buffer) := by
  have hfailed : b.Ended x buffer _ _ := .failed h
  rw [hclear.eraseP_eq] at hfailed
  exact hfailed

theorem ended_transactMux (hclear : b.Clear x) {m : SimMux} (hm : b.muxAt x = some m) (buffer : Buffer) :
    b.Ended x buffer ((b.record x buffer).transactMux m x buffer).1 ((b.record x buffer).transactMux m x buffer).2 := by
  unfold transactMux
  simp only
  split
  · rename_i hempty
    exact .polled hclear hm (List.isEmpty_iff.mp hempty)
  · rename_i hwrite
    have hne : x.write ≠ [] := fun e => hwrite (List.isEmpty_iff.mpr e)
    cases hdecode : m.descriptor.part.decode x.write with
    | none => exact (Fails.unreadable hclear hm hne hdecode).ended_of_clear hclear buffer
    | some segment => exact .switched hclear hm hne hdecode

theorem ended_transactDevice (hclear : b.Clear x) (hm : b.muxAt x = none) (buffer : Buffer) :
    b.Ended x buffer ((b.record x buffer).transactDevice x buffer).1
      ((b.record x buffer).transactDevice x buffer).2 := by
  have hanswering : (b.record x buffer).answering x = b.answering x := rfl
  unfold transactDevice
  rw [hanswering]
  split
  · rename_i hnone
    exact (Fails.unanswered hclear hm hnone).ended_of_clear hclear buffer
  · rename_i d i hone
    have hanswered : b.Ended x buffer _ _ := .answered hclear hm hone
    unfold SimDevice.exchange at hanswered
    cases hop : x.op with
    | writeRead =>
      rw [hop] at hanswered
      exact hanswered
    | writeReadBlock =>
      rw [hop] at hanswered
      exact hanswered
  · rename_i hnone hone
    cases hans : b.answering x with
    | nil => exact absurd hans hnone
    | cons first others =>
      cases others with
      | nil => exact absurd hans (hone first.1 first.2)
      | cons second others => exact (Fails.contested hclear hm hans).ended_of_clear hclear buffer

/-- Every transaction ends in one of these ways. -/
theorem ended_transact (b : SimBoard) (x : Exchange) (buffer : Buffer) :
    b.Ended x buffer (b.transact x buffer).1 (b.transact x buffer).2 := by
  have hhead := b.head?_waiting x.address
  cases hfault : b.faults.find? (·.1 == x.address) with
  | some entry =>
    rw [hfault] at hhead
    obtain ⟨rest, hwaiting⟩ := List.head?_eq_some_iff.mp hhead
    simp only [transact, hfault]
    exact .failed (.faulted hwaiting)
  | none =>
    rw [hfault] at hhead
    have hclear : b.Clear x := List.head?_eq_none_iff.mp hhead
    rw [transact_of_no_fault hfault]
    cases hm : b.muxes.find? (·.isAt x.controller x.port x.address) with
    | some m => exact ended_transactMux hclear hm buffer
    | none => exact ended_transactDevice hclear hm buffer

/-- A transaction has one reason to fail at most. -/
theorem Fails.unique {other : BusFault} (h : b.Fails x fault) (h' : b.Fails x other) : fault = other := by
  -- a fault waits or none does, a multiplexer is there or not, and so many devices answer: no two reasons go together
  cases h <;> cases h' <;> simp_all [Clear]

/-- A transaction that has a reason to fail does so. -/
theorem Fails.result_eq (h : b.Fails x fault) (hended : b.Ended x buffer reply b') : reply.result = .error fault := by
  cases hended with
  | failed hfails => rw [h.unique hfails]
  | polled hclear hm hwrite => cases h <;> simp_all [Clear]
  | switched hclear hm hwrite hdecode => cases h <;> simp_all [Clear]
  | answered hclear hm hone => cases h <;> simp_all [Clear]

/-! ## What a transaction does to a board -/

/-- At most what one multiplexer at the address of a transaction connects has changed. -/
def OneMux (b : SimBoard) (x : Exchange) (b' : SimBoard) : Prop :=
  ∃ i m segment, b.muxes[i]? = some m ∧ m.isAt x.controller x.port x.address = true ∧
    b'.muxes = b.muxes.set i { m with selected := segment } ∧ b'.devices = b.devices

/-- At most the contents of one device at the address of a transaction have changed. -/
def OneDevice (b : SimBoard) (x : Exchange) (buffer : Buffer) (b' : SimBoard) : Prop :=
  ∃ i d, b.devices[i]? = some d ∧ d.isAt x.controller x.port x.address = true ∧
    b'.muxes = b.muxes ∧ b'.devices = b.devices.set i (d.exchange x.op x.write buffer).2

/-- What a transaction that gives `reply` does to the board `b`, which is `b'` afterwards. -/
structure Effect (b : SimBoard) (x : Exchange) (buffer : Buffer) (reply : Reply BusFault) (b' : SimBoard) : Prop where
  /-- The transaction is on record. -/
  history_eq : b'.history = b.history ++ [⟨x, buffer.length⟩]
  /-- The oldest fault that waits for the address is returned. -/
  oldest_returned : ∀ fault rest, b.waiting x.address = fault :: rest → reply.result = .error fault
  /-- It is taken out, and no other fault is. -/
  faults_eq : b'.faults = b.faults.eraseP (·.1 == x.address)
  waiting_eq : ∀ a, b'.waiting a = if a = x.address then (b.waiting a).tail else b.waiting a
  /-- It fails for one of four reasons. -/
  error_iff : ∀ fault, reply.result = .error fault ↔ b.Fails x fault
  /-- If it fails, the latches, the devices and the buffer stay. -/
  of_error : ∀ fault, reply.result = .error fault →
    reply.buffer = buffer ∧ b'.muxes = b.muxes ∧ b'.devices = b.devices
  /-- If it succeeds, one latch or one device moves at most, and no fault is spent. -/
  of_ok : ∀ n, reply.result = .ok n → b'.faults = b.faults ∧ (b.OneMux x b' ∨ b.OneDevice x buffer b')

/-- The multiplexer that is switched is the first one at the address. -/
theorem connect_eq_set {m : SimMux} (segment : Option SegmentId) {ms : List SimMux}
    (h : ms.find? (·.isAt x.controller x.port x.address) = some m) :
    ∃ i, ms[i]? = some m ∧ connect x segment ms = ms.set i { m with selected := segment } := by
  induction ms with
  | nil => cases h
  | cons k ms ih =>
    unfold connect
    split
    · rename_i hat
      rw [List.find?_cons_of_pos (p := fun k : SimMux => k.isAt x.controller x.port x.address) hat] at h
      obtain rfl := Option.some.inj h
      exact ⟨0, rfl, rfl⟩
    · rename_i hat
      rw [List.find?_cons_of_neg (p := fun k : SimMux => k.isAt x.controller x.port x.address) hat] at h
      obtain ⟨i, hi, hset⟩ := ih h
      exact ⟨i + 1, hi, by rw [hset, List.set_cons_succ]⟩

theorem isAt_of_muxAt {m : SimMux} (h : b.muxAt x = some m) : m.isAt x.controller x.port x.address = true :=
  List.find?_some (p := fun k : SimMux => k.isAt x.controller x.port x.address) h

/-- A device that answers is on the board, at the address. -/
theorem of_answering {d : SimDevice} {i : Nat} (h : (d, i) ∈ b.answering x) :
    b.devices[i]? = some d ∧ d.isAt x.controller x.port x.address = true := by
  obtain ⟨hrow, hat⟩ := List.mem_filter.mp h
  rw [Bool.and_eq_true] at hat
  exact ⟨List.mem_zipIdx_iff_getElem?.mp hrow, hat.1⟩

theorem Ended.oneMux_or_oneDevice (h : b.Ended x buffer reply b') {n : Nat} (hn : reply.result = .ok n) :
    b'.faults = b.faults ∧ (b.OneMux x b' ∨ b.OneDevice x buffer b') := by
  cases h with
  | failed _ => cases hn
  | @polled m hclear hm hwrite =>
    obtain ⟨i, hi⟩ := List.getElem?_of_mem (List.mem_of_find?_eq_some hm)
    refine ⟨rfl, Or.inl ⟨i, m, m.selected, hi, isAt_of_muxAt hm, ?_, rfl⟩⟩
    exact (KeyedList.set_eq_self hi).symm
  | @switched m segment hclear hm hwrite hdecode =>
    obtain ⟨i, hi, hset⟩ := connect_eq_set segment hm
    exact ⟨rfl, Or.inl ⟨i, m, segment, hi, isAt_of_muxAt hm, hset, rfl⟩⟩
  | @answered d i hclear hm hone =>
    obtain ⟨hd, hat⟩ := of_answering (hone ▸ List.mem_singleton_self (d, i))
    exact ⟨rfl, Or.inr ⟨i, d, hd, hat, rfl, rfl⟩⟩

theorem Ended.faults_eq (h : b.Ended x buffer reply b') : b'.faults = b.faults.eraseP (·.1 == x.address) := by
  cases h with
  | failed _ => rfl
  | polled hclear _ _ | switched hclear _ _ _ | answered hclear _ _ => exact hclear.eraseP_eq.symm

theorem Ended.history_eq (h : b.Ended x buffer reply b') : b'.history = b.history ++ [⟨x, buffer.length⟩] := by
  cases h <;> rfl

theorem Ended.fails (h : b.Ended x buffer reply b') (hresult : reply.result = .error fault) : b.Fails x fault := by
  cases h with
  | failed hfails => exact Except.error.inj hresult ▸ hfails
  | polled _ _ _ | switched _ _ _ _ | answered _ _ _ => cases hresult

theorem Ended.frame (h : b.Ended x buffer reply b') (hresult : reply.result = .error fault) :
    reply.buffer = buffer ∧ b'.muxes = b.muxes ∧ b'.devices = b.devices := by
  cases h with
  | failed _ => exact ⟨rfl, rfl, rfl⟩
  | polled _ _ _ | switched _ _ _ _ | answered _ _ _ => cases hresult

theorem Ended.effect (h : b.Ended x buffer reply b') : b.Effect x buffer reply b' where
  history_eq := h.history_eq
  oldest_returned _ _ hwaiting := (Fails.faulted hwaiting).result_eq h
  faults_eq := h.faults_eq
  waiting_eq := waiting_of_faults_eq h.faults_eq
  error_iff _ := ⟨h.fails, fun hfails => hfails.result_eq h⟩
  of_error _ := h.frame
  of_ok _ := h.oneMux_or_oneDevice

theorem effect_transact (b : SimBoard) (x : Exchange) (buffer : Buffer) :
    b.Effect x buffer (b.transact x buffer).1 (b.transact x buffer).2 :=
  (b.ended_transact x buffer).effect

end SimBoard

/-! ## Runs -/

/-- What may happen to a board. -/
inductive BoardEvent where
  | transact (exchange : Exchange) (buffer : Buffer)
  /-- A fault is injected. -/
  | failNext (address : UInt8) (fault : BusFault)

/-- A transaction of a run, with the board that it found. -/
structure Passage where
  before : SimBoard
  exchange : Exchange
  buffer : Buffer

namespace Passage

def reply (p : Passage) : Reply BusFault := (p.before.transact p.exchange p.buffer).1

def after (p : Passage) : SimBoard := (p.before.transact p.exchange p.buffer).2

/-- Whether the transaction has an address and finds a fault waiting for it. -/
def meetsFaultFor (p : Passage) (address : UInt8) : Bool :=
  p.exchange.address == address && !(p.before.waiting address).isEmpty

theorem effect (p : Passage) : p.before.Effect p.exchange p.buffer p.reply p.after :=
  p.before.effect_transact p.exchange p.buffer

/-- Of the faults that wait for an address, a transaction returns the first if it meets one, and leaves the others. -/
theorem returned_append_waiting (p : Passage) (address : UInt8) :
    ((if p.meetsFaultFor address then [p.reply.result] else []) ++ (p.after.waiting address).map .error) =
      (p.before.waiting address).map .error := by
  rw [p.effect.waiting_eq]
  by_cases ha : address = p.exchange.address
  · subst ha
    cases hwaiting : p.before.waiting p.exchange.address with
    | nil => simp [meetsFaultFor, hwaiting]
    | cons fault rest => simp [meetsFaultFor, hwaiting, p.effect.oldest_returned fault rest hwaiting]
  · simp [meetsFaultFor, ha, Ne.symm ha]

end Passage

namespace SimBoard

/-- A run of events: its transactions, in order, and the board that it leaves. -/
def run (b : SimBoard) : List BoardEvent → List Passage × SimBoard
  | [] => ([], b)
  | .transact x buffer :: es =>
    let p : Passage := ⟨b, x, buffer⟩
    let (passages, b') := p.after.run es
    (p :: passages, b')
  | .failNext address fault :: es => (b.failNext address fault).run es

/-- The faults that a run injects for an address, in order. -/
def injected (address : UInt8) : List BoardEvent → List BusFault
  | [] => []
  | .transact _ _ :: es => injected address es
  | .failNext a fault :: es => (if a = address then [fault] else []) ++ injected address es

/-- The queue of faults of an address after a run, as the events alone tell it: an injection puts a fault behind the
others, and a transaction with the address takes the first one. -/
def queueAfter (address : UInt8) : List BusFault → List BoardEvent → List BusFault
  | queue, [] => queue
  | queue, .transact x _ :: es => queueAfter address (if address = x.address then queue.tail else queue) es
  | queue, .failNext a fault :: es => queueAfter address (queue ++ if a = address then [fault] else []) es

/-- What waits for an address after a run is its queue, whatever else the transactions met. -/
theorem waiting_run (b : SimBoard) (events : List BoardEvent) (address : UInt8) :
    (b.run events).2.waiting address = queueAfter address (b.waiting address) events := by
  induction events generalizing b with
  | nil => rfl
  | cons e es ih =>
    cases e with
    | transact x buffer =>
      unfold run queueAfter
      rw [ih, (Passage.mk b x buffer).effect.waiting_eq]
    | failNext a fault =>
      unfold run queueAfter
      rw [ih, waiting_failNext]

/-- What comes back for an address and what still waits for it is what waited before and what was injected since. -/
theorem returned_append_waiting (b : SimBoard) (events : List BoardEvent) (address : UInt8) :
    ((b.run events).1.filter (·.meetsFaultFor address)).map (·.reply.result) ++
        ((b.run events).2.waiting address).map .error =
      (b.waiting address ++ injected address events).map .error := by
  induction events generalizing b with
  | nil => simp [run, injected]
  | cons e es ih =>
    cases e with
    | transact x buffer =>
      have hstep := (Passage.mk b x buffer).returned_append_waiting address
      have hrest := ih (Passage.mk b x buffer).after
      unfold run injected
      -- the transaction takes its share off the front of what waits, and the rest of the run shares out the others
      rw [List.map_append, ← hstep, List.append_assoc, ← List.map_append, ← hrest, ← List.append_assoc]
      congr 1
      rw [List.filter_cons]
      split <;> simp
    | failNext a fault =>
      unfold run injected
      rw [ih, waiting_failNext, List.append_assoc]

/-- A run leaves a record of each of its transactions, and of nothing else. -/
theorem history_run (b : SimBoard) (events : List BoardEvent) :
    (b.run events).2.history = b.history ++ (b.run events).1.map fun p => ⟨p.exchange, p.buffer.length⟩ := by
  induction events generalizing b with
  | nil => simp [run]
  | cons e es ih =>
    cases e with
    | transact x buffer =>
      unfold run
      rw [ih, (Passage.mk b x buffer).effect.history_eq, List.append_assoc, List.map_cons]
      rfl
    | failNext a fault =>
      unfold run
      exact ih (b.failNext a fault)

/-- **Faults in turn.** In a run of transactions and injections in any order, for any addresses, the faults of every
address come back in the order of their injection, each of them once, as the result of a transaction with the address;
a transaction that fails, for whatever reason, leaves its record and takes out the fault that it met, and nothing else
changes; one that succeeds moves at most one latch or one device. -/
theorem faults_in_turn (b : SimBoard) (events : List BoardEvent) :
    (∀ p ∈ (b.run events).1, p.before.Effect p.exchange p.buffer p.reply p.after) ∧
    (∀ address, ((b.run events).1.filter (·.meetsFaultFor address)).map (·.reply.result) ++
        ((b.run events).2.waiting address).map .error =
      (b.waiting address ++ injected address events).map .error) ∧
    (∀ address, (b.run events).2.waiting address = queueAfter address (b.waiting address) events) ∧
    (b.run events).2.history = b.history ++ (b.run events).1.map fun p => ⟨p.exchange, p.buffer.length⟩ :=
  ⟨fun p _ => p.effect, b.returned_append_waiting events, b.waiting_run events, b.history_run events⟩

end SimBoard

/-! ## Faults for a multiplexer and for a device -/

namespace MuxBesideDevice

def board : SimBoard :=
  (SimBoard.new [⟨⟨0⟩, ⟨1⟩, ⟨0⟩, .ltc4306, 0x44, 4, none⟩]).addDevice (.new ⟨⟨1⟩, ⟨0⟩, none, 0x20⟩)

def access (address : UInt8) (write : List UInt8) : BoardEvent := .transact ⟨⟨1⟩, ⟨0⟩, address, .writeRead, write⟩ []

/-- The second access to the multiplexer meets no fault; it fails because the bytes are no control write. -/
def events : List BoardEvent :=
  [.failNext 0x20 .timeout, .failNext 0x44 .busLocked, .failNext 0x20 .noAck, access 0x44 [0x03, 0x80],
    access 0x20 [], access 0x44 [0x01], access 0x20 [], access 0x20 []]

theorem faults_in_turn_interleaved :
    (board.run events).1.map (·.reply.result) =
        [.error .busLocked, .error .timeout, .error .noAck, .error .noAck, .ok 0] ∧
      (∀ p ∈ (board.run events).1, p.before.Effect p.exchange p.buffer p.reply p.after) ∧
      ((board.run events).1.filter (·.meetsFaultFor 0x20)).map (·.reply.result) ++
          ((board.run events).2.waiting 0x20).map .error =
        [.error .timeout, .error .noAck] :=
  have hrun := SimBoard.faults_in_turn board events
  ⟨rfl, hrun.1, hrun.2.1 0x20⟩

end MuxBesideDevice

end I2cTopology
