import Purroute.Outward

set_option autoImplicit false

namespace Purroute

open Interaction Interaction.Program

-- The client's bytes as they arrive: the next read takes at most one piece.
def takeRead (limit : Nat) : List Bytes → Bytes × List Bytes
  | [] => ([], [])
  | piece :: rest => if piece.length ≤ limit then (piece, rest) else (piece.take limit, piece.drop limit :: rest)

-- `read_exact` reads until it has them all.
def takeExact : List Bytes → Nat → Option (Bytes × List Bytes)
  | pieces, 0 => some ([], pieces)
  | [], _ + 1 => none
  | piece :: rest, count + 1 =>
      if piece.length ≤ count + 1 then
        (takeExact rest (count + 1 - piece.length)).map fun taken => (piece ++ taken.1, taken.2)
      else some (piece.take (count + 1), piece.drop (count + 1) :: rest)

theorem take_read_length (limit : Nat) (pieces : List Bytes) : (takeRead limit pieces).1.length ≤ limit := by
  cases pieces with
  | nil => exact Nat.zero_le _
  | cons piece rest =>
      simp only [takeRead]
      split
      · assumption
      · exact List.length_take_le _ _

theorem take_read_flatten (limit : Nat) (pieces : List Bytes) :
    (takeRead limit pieces).1 ++ (takeRead limit pieces).2.flatten = pieces.flatten := by
  cases pieces with
  | nil => rfl
  | cons piece rest =>
      simp only [takeRead]
      split
      · rfl
      · rw [List.flatten_cons, List.flatten_cons, ← List.append_assoc, List.take_append_drop]

theorem take_exact_some (pieces : List Bytes) (count : Nat) (bytes : Bytes) (left : List Bytes)
    (taken : takeExact pieces count = some (bytes, left)) : bytes.length = count ∧ bytes ++ left.flatten = pieces.flatten := by
  induction pieces generalizing count bytes with
  | nil =>
      cases count with
      | zero =>
          cases taken
          exact ⟨rfl, rfl⟩
      | succ count => cases taken
  | cons piece rest ih =>
      cases count with
      | zero =>
          cases taken
          exact ⟨rfl, rfl⟩
      | succ count =>
          simp only [takeExact] at taken
          by_cases short : piece.length ≤ count + 1
          · rw [if_pos short, Option.map_eq_some_iff] at taken
            obtain ⟨⟨more, after⟩, found, same⟩ := taken
            cases same
            obtain ⟨length, whole⟩ := ih _ _ found
            refine ⟨?_, ?_⟩
            · rw [List.length_append, length]
              omega
            · rw [List.append_assoc, whole, List.flatten_cons]
          · rw [if_neg short] at taken
            cases taken
            refine ⟨?_, ?_⟩
            · rw [List.length_take]
              omega
            · rw [List.flatten_cons, List.flatten_cons, ← List.append_assoc, List.take_append_drop]

theorem take_exact_length (pieces : List Bytes) (count : Nat) (bytes : Bytes) (left : List Bytes)
    (taken : takeExact pieces count = some (bytes, left)) : bytes.length = count :=
  (take_exact_some pieces count bytes left taken).1

theorem take_exact_none (pieces : List Bytes) (count : Nat) (missing : takeExact pieces count = none) :
    pieces.flatten.length < count := by
  induction pieces generalizing count with
  | nil =>
      cases count with
      | zero => cases missing
      | succ count => exact Nat.succ_pos count
  | cons piece rest ih =>
      cases count with
      | zero => cases missing
      | succ count =>
          simp only [takeExact] at missing
          by_cases short : piece.length ≤ count + 1
          · rw [if_pos short, Option.map_eq_none_iff] at missing
            have fewer := ih _ missing
            rw [List.flatten_cons, List.length_append]
            omega
          · rw [if_neg short] at missing
            cases missing

def clientSide (surroundings : History → (op : Op) → op.Reply) : Environment signature (List Bytes)
  | pieces, _, .read limit => (.ok ⟨(takeRead limit pieces).1, take_read_length limit pieces⟩, (takeRead limit pieces).2)
  | pieces, _, .readExact count =>
      match taken : takeExact pieces count with
      | some (bytes, left) => (.ok ⟨bytes, (take_exact_some pieces count bytes left taken).1⟩, left)
      | none => (.error .failed, [])
  | pieces, past, op => (surroundings past op, pieces)

def SameStream (first second : List Bytes) : Prop := first.flatten = second.flatten

def SameLogin (first second : List Bytes) : Prop := SameStream first second ∧ (takeRead 513 first).1 = (takeRead 513 second).1

theorem same_after_read (limit : Nat) (first second : List Bytes) (same : SameStream first second)
    (taken : (takeRead limit first).1 = (takeRead limit second).1) :
    SameStream (takeRead limit first).2 (takeRead limit second).2 := by
  have whole : first.flatten = second.flatten := same
  rw [← take_read_flatten limit first, ← take_read_flatten limit second, taken] at whole
  exact List.append_cancel_left whole

def NotRead : Op → Prop
  | .read _ => False
  | _ => True

def NotInput : Op → Prop
  | .read _ => False
  | .readExact _ => False
  | _ => True

section Frames

variable (surroundings : History → (op : Op) → op.Reply)

theorem take_exact_same (first second : List Bytes) (count : Nat) (same : SameStream first second) :
    (takeExact first count).map (fun taken => (taken.1, taken.2.flatten)) =
      (takeExact second count).map fun taken => (taken.1, taken.2.flatten) := by
  rw [SameStream] at same
  cases left : takeExact first count with
  | none =>
      have short := take_exact_none first count left
      cases right : takeExact second count with
      | none => rfl
      | some taken =>
          obtain ⟨length, whole⟩ := take_exact_some second count taken.1 taken.2 right
          rw [same, ← whole, List.length_append] at short
          omega
  | some taken =>
      obtain ⟨length, whole⟩ := take_exact_some first count taken.1 taken.2 left
      cases right : takeExact second count with
      | none =>
          have short := take_exact_none second count right
          rw [← same, ← whole, List.length_append] at short
          omega
      | some taken' =>
          obtain ⟨length', whole'⟩ := take_exact_some second count taken'.1 taken'.2 right
          have parts := List.append_inj (whole.trans (same.trans whole'.symm)) (length.trans length'.symm)
          simp only [Option.map_some, parts.1, parts.2]

theorem client_side_read_exact (first second : List Bytes) (past : History) (count : Nat) (same : SameStream first second) :
    (clientSide surroundings first past (.readExact count)).1 = (clientSide surroundings second past (.readExact count)).1 ∧
      SameStream (clientSide surroundings first past (.readExact count)).2
        (clientSide surroundings second past (.readExact count)).2 := by
  have agree := take_exact_same first second count same
  simp only [clientSide]
  split
  · rename_i bytes left taken
    rw [taken, Option.map_some] at agree
    split
    · rename_i bytes' left' taken'
      rw [taken', Option.map_some, Option.some.injEq, Prod.mk.injEq] at agree
      obtain ⟨rfl, rest⟩ := agree
      exact ⟨rfl, rest⟩
    · rename_i missing
      rw [missing] at agree
      cases agree
  · rename_i missing
    rw [missing, Option.map_none] at agree
    split
    · rename_i bytes' left' taken'
      rw [taken'] at agree
      cases agree
    · exact ⟨rfl, rfl⟩

theorem not_read_lockstep {A : Type} (program : Router A) (uses : Uses NotRead program) :
    Lockstep (clientSide surroundings) SameStream SameStream program := by
  refine lockstep_of_uses SameStream NotRead program uses ?_
  intro op allowed past first second same
  cases op with
  | read limit => exact allowed.elim
  | readExact count => exact client_side_read_exact surroundings first second past count same
  | _ => exact ⟨rfl, same⟩

theorem not_input_lockstep {A : Type} (program : Router A) (uses : Uses NotInput program) :
    Lockstep (clientSide surroundings) SameLogin SameLogin program := by
  refine lockstep_of_uses SameLogin NotInput program uses ?_
  intro op allowed past first second same
  cases op with
  | read limit => exact allowed.elim
  | readExact count => exact allowed.elim
  | _ => exact ⟨rfl, same⟩

theorem login_read_lockstep {A : Type} (next : Bytes → Router A) (tail : ∀ bytes, Uses NotRead (next bytes)) :
    Lockstep (clientSide surroundings) SameLogin SameStream ((clientRead 513).bind next) := by
  refine lockstep_ask SameLogin SameStream SameStream _ _ ?_ ?_
  · intro past first second same
    exact ⟨congrArg Except.ok (Subtype.ext same.2), same_after_read 513 first second same.1 same.2⟩
  · intro reply
    refine not_read_lockstep surroundings _ (uses_bind _ _ ?_ tail)
    exact uses_bind _ _ (io_uses _ reply) fun _ => trivial

end Frames

section Connections

variable (platform : Platform) (server : ProxyServer) (peer : IpAddr) (surroundings : History → (op : Op) → op.Reply)

theorem outward_not_read (op : Op) (outward : Outward op) : NotRead op := by
  cases op with
  | read limit => exact outward
  | _ => trivial

theorem not_read_closed : OutwardClosed (Uses NotRead) := uses_outward_closed NotRead outward_not_read

theorem relayed_not_read (id : Option Int) (costPerByte : Rat) : Uses NotRead (relayed id costPerByte) :=
  relayed_uses NotRead id costPerByte trivial trivial trivial

theorem authenticate_user_not_read (request : Bytes) : Uses NotRead (authenticateUser platform server.config request peer) :=
  authenticate_user_uses NotRead platform server.config request peer (fun _ _ => trivial) trivial

theorem client_write_not_input (bytes : Bytes) : Uses NotInput (clientWrite bytes) := ⟨trivial, io_uses _⟩

theorem refuse_methods_not_input {A : Type} (reason : Failure) : Uses NotInput (refuseMethods reason : Router A) :=
  uses_bind _ _ (client_write_not_input _) fun _ => trivial

theorem socks5_authenticate_open (config : RouterConfig) (methods : Bytes) (noLogin : config.auth ≠ some true) :
    Uses NotInput (socks5Authenticate config methods) := by
  rw [socks5Authenticate, if_neg noLogin]
  by_cases offered : 0x00 ∈ methods
  · rw [if_pos offered]
    exact uses_bind _ _ (client_write_not_input _) fun _ => trivial
  · rw [if_neg offered]
    exact refuse_methods_not_input _

theorem same_login_stream (first second : List Bytes) (same : SameLogin first second) : SameStream first second := same.1

theorem not_input_then {A B : Type} (first : Router A) (next : A → Router B) (head : Uses NotInput first)
    (tail : ∀ value, Lockstep (clientSide surroundings) SameLogin SameStream (next value)) :
    Lockstep (clientSide surroundings) SameLogin SameStream (first.bind next) :=
  lockstep_bind SameLogin SameLogin SameStream same_login_stream first next (not_input_lockstep surroundings first head) tail

theorem not_read_login {A : Type} (program : Router A) (uses : Uses NotRead program) :
    Lockstep (clientSide surroundings) SameLogin SameStream program :=
  fun past first second same => not_read_lockstep surroundings program uses past first second same.1

theorem socks5_tail_not_read (login : Selection × Option Int) :
    Uses NotRead (socks5Target.bind fun target => (defaulted peer login.1).bind fun selection =>
      (resolve server selection).bind fun chain => (connectChain chain target.1 target.2).bind fun _ =>
        (clientWrite socks5Granted).bind fun _ => relayed login.2 (firstCost chain)) :=
  socks5_tail_keeps (Uses NotRead) not_read_closed server peer login.1 (fun chain => relayed login.2 (firstCost chain))
    fun _ => relayed_not_read _ _

theorem handle_socks5_lockstep (request : Bytes) :
    Lockstep (clientSide surroundings) SameLogin SameStream (handleSocks5 server request peer) := by
  have tail := socks5_tail_not_read server peer
  refine not_input_then surroundings _ _ (uses_ofExcept _) fun methods => ?_
  by_cases login : server.config.auth = some true
  · rw [socks5Authenticate, if_pos login]
    by_cases offered : 0x02 ∈ methods
    · rw [if_pos offered, bind_eq, bind_eq, bind_assoc]
      refine not_input_then surroundings _ _ (client_write_not_input _) fun _ => ?_
      rw [bind_eq, bind_assoc]
      refine login_read_lockstep surroundings _ fun message => ?_
      refine uses_bind _ _ ?_ fun login => tail login
      refine uses_bind _ _ (uses_bind _ _ (uses_ofExcept _) fun _ => authenticate_uses NotRead _ _ fun _ _ _ =>
        trivial) fun login => ?_
      exact uses_bind _ _ ⟨trivial, io_uses _⟩ fun _ => trivial
    · rw [if_neg offered]
      exact not_input_then surroundings _ _ (refuse_methods_not_input _) fun login => not_read_login surroundings _ (tail login)
  · exact not_input_then surroundings _ _ (socks5_authenticate_open server.config methods login) fun login =>
      not_read_login surroundings _ (tail login)

theorem handle_socks5_not_read (request : Bytes) (noLogin : server.config.auth ≠ some true) :
    Uses NotRead (handleSocks5 server request peer) := by
  have narrower : ∀ op, NotInput op → NotRead op := by
    intro op narrow
    cases op with
    | read limit => exact narrow
    | _ => trivial
  refine uses_bind _ _ (uses_ofExcept _) fun methods => ?_
  refine uses_bind _ _ (uses_mono _ _ narrower (socks5_authenticate_open server.config methods noLogin)) fun login => ?_
  exact socks5_tail_not_read server peer login

theorem dispatch_not_read (protocol : Protocol) (request : Bytes) (chain : List ProxyConfig)
    (noLogin : protocol = .socks5 → server.config.auth ≠ some true) :
    Uses NotRead (dispatch platform server peer protocol request chain) :=
  dispatch_keeps (Uses NotRead) not_read_closed platform request (fun _ => True) server peer protocol chain
    (fun next tail => uses_bind _ next (authenticate_user_not_read platform server peer request) fun id => tail id trivial)
    (fun id costPerByte _ => relayed_not_read id costPerByte) fun socks5 =>
      handle_socks5_not_read server peer request (noLogin socks5)

theorem serve_lockstep (request : Bytes) :
    Lockstep (clientSide surroundings) SameLogin SameStream (serve platform server peer request) := by
  refine not_input_then surroundings _ _ (uses_ofExcept _) fun protocol => ?_
  refine not_input_then surroundings _ _ (selection_for_uses NotInput platform protocol request peer trivial) fun selection => ?_
  refine not_input_then surroundings _ _ (resolve_uses NotInput server selection trivial) fun chain => ?_
  by_cases socks5 : protocol = .socks5
  · rw [socks5]
    cases dispatch_socks5 platform server peer request chain with
    | inl empty =>
        rw [empty.2]
        exact not_read_login surroundings _ trivial
    | inr handled =>
        rw [handled]
        exact handle_socks5_lockstep server peer surroundings request
  · exact not_read_login surroundings _ (dispatch_not_read platform server peer protocol request chain
      fun own => absurd own socks5)

theorem serve_not_read (request : Bytes) (noLogin : server.config.auth = some true → byteAt request 0 ≠ 0x05) :
    Uses NotRead (serve platform server peer request) := by
  rw [serve]
  cases detected : detectProtocol request with
  | error failure => trivial
  | ok protocol =>
      rw [ofExcept_ok, bind_eq, done_bind]
      refine uses_bind _ _ (selection_for_uses NotRead platform protocol request peer trivial) fun selection => ?_
      refine uses_bind _ _ (resolve_uses NotRead server selection trivial) fun chain => ?_
      exact dispatch_not_read platform server peer protocol request chain fun socks5 login =>
        noLogin login ((detect_socks5 request protocol detected).mp socks5)

def connectionRun (pieces : List Bytes) : Driven signature (List Bytes) Failure Unit :=
  drive (clientSide surroundings) pieces [] (handleConnection platform server peer)

def opening (pieces : List Bytes) : { bytes : Bytes // bytes.length ≤ 8192 } :=
  ⟨(takeRead 8192 pieces).1, take_read_length 8192 pieces⟩

theorem connection_run_opening (pieces : List Bytes) : connectionRun platform server peer surroundings pieces =
    drive (clientSide surroundings) (takeRead 8192 pieces).2 [⟨.read 8192, .ok (opening pieces)⟩]
      (serve platform server peer (opening pieces).val) := rfl

-- The single reads return the same: the first one and, before a SOCKS5 login,
-- that of the sub-negotiation.
structure SameReads (first second : List Bytes) : Prop where
  initial : opening first = opening second
  login : server.config.auth = some true → byteAt (opening first).val 0 = 0x05 →
    (takeRead 513 (takeRead 8192 first).2).1 = (takeRead 513 (takeRead 8192 second).2).1

theorem connection_run_agrees (first second : List Bytes) (same : SameStream first second)
    (reads : SameReads server first second) :
    (connectionRun platform server peer surroundings first).past = (connectionRun platform server peer surroundings second).past ∧
      SameStream (connectionRun platform server peer surroundings first).state
        (connectionRun platform server peer surroundings second).state := by
  have rest := same_after_read 8192 first second same (congrArg Subtype.val reads.initial)
  rw [connection_run_opening, connection_run_opening, ← reads.initial]
  by_cases login : server.config.auth = some true ∧ byteAt (opening first).val 0 = 0x05
  · obtain ⟨history, _, left⟩ := serve_lockstep platform server peer surroundings (opening first).val _ _ _
      ⟨rest, reads.login login.1 login.2⟩
    exact ⟨history, left⟩
  · have noLogin := serve_not_read platform server peer (opening first).val fun auth socks5 => login ⟨auth, socks5⟩
    obtain ⟨history, _, left⟩ := not_read_lockstep surroundings _ noLogin _ _ _ rest
    exact ⟨history, left⟩

def isRelay (event : Event) : Bool :=
  match event with
  | ⟨.relay _ _, _⟩ => true
  | _ => false

def isAdmitted (run : Driven signature (List Bytes) Failure Unit) : Prop := ∃ event ∈ run.past, isRelay event = true

def requested (event : Event) : Option Op :=
  match event with
  | ⟨.dial address, _⟩ => some (.dial address)
  | ⟨.send (.raw _), _⟩ => none
  | ⟨.send (.rebuilt _ _ _), _⟩ => none
  | ⟨.send message, _⟩ => some (.send message)
  | _ => none

def forwarded (event : Event) : Bytes :=
  match event with
  | ⟨.send (.raw payload), _⟩ => payload
  | ⟨.send (.rebuilt firstLine credentials headers), _⟩ => (Message.rebuilt firstLine credentials headers).bytes platform
  | _ => []

def delivered (run : Driven signature (List Bytes) Failure Unit) : Bytes :=
  run.past.flatMap (forwarded platform) ++ run.state.flatten

structure Alike (first second : Driven signature (List Bytes) Failure Unit) : Prop where
  decision : isAdmitted first ↔ isAdmitted second
  destination : isAdmitted first → first.past.filterMap requested = second.past.filterMap requested
  payload : isAdmitted first → delivered platform first = delivered platform second

def CutOf (stream : Bytes) (pieces : List Bytes) : Prop := pieces.flatten = stream ∧ ∀ piece ∈ pieces, piece ≠ []

def NotRelay : Op → Prop
  | .relay _ _ => False
  | _ => True

theorem not_relay_rejected (pieces : List Bytes) (past : History) (program : Router Unit) (uses : Uses NotRelay program)
    (before : ∀ event ∈ past, isRelay event = false) : ¬ isAdmitted (drive (clientSide surroundings) pieces past program) := by
  intro admitted
  obtain ⟨event, member, relay⟩ := admitted
  obtain ⟨trace, history, run⟩ := drive_runs (clientSide surroundings) pieces past program
  have own := (uses_event program _ trace uses run).1
  rw [history, List.mem_append] at member
  cases member with
  | inl earlier =>
      rw [before event earlier] at relay
      cases relay
  | inr later =>
      have allowed := own event later
      obtain ⟨op, reply⟩ := event
      cases op with
      | relay id costPerByte => exact allowed
      | _ => cases relay

theorem serve_one_byte (byte : UInt8) : Uses NotRelay (serve platform server peer [byte]) := by
  have user : Uses NotRelay (authenticateUser platform server.config [byte] peer) :=
    authenticate_user_uses NotRelay platform server.config [byte] peer (fun _ _ => trivial) trivial
  rw [serve]
  cases detected : detectProtocol [byte] with
  | error failure => trivial
  | ok protocol =>
      rw [ofExcept_ok, bind_eq, done_bind]
      refine uses_bind _ _ (selection_for_uses NotRelay platform protocol [byte] peer trivial) fun selection => ?_
      refine uses_bind _ _ (resolve_uses NotRelay server selection trivial) fun chain => ?_
      cases detect_one_byte byte protocol detected with
      | inl five =>
          have socks5 : protocol = .socks5 := (detect_socks5 [byte] protocol detected).mpr five
          rw [socks5]
          cases dispatch_socks5 platform server peer [byte] chain with
          | inl empty =>
              rw [empty.2]
              trivial
          | inr handled =>
              rw [handled]
              trivial
      | inr four =>
          rw [four] at detected ⊢
          cases detected
          cases chain with
          | nil => trivial
          | cons first rest =>
              rw [four] at user
              cases rest with
              | nil => exact uses_bind _ _ user fun _ => trivial
              | cons second rest => exact uses_bind _ _ user fun _ => trivial

theorem rejected_of_serve (pieces : List Bytes) (uses : Uses NotRelay (serve platform server peer (opening pieces).val)) :
    ¬ isAdmitted (connectionRun platform server peer surroundings pieces) := by
  rw [connection_run_opening]
  refine not_relay_rejected surroundings _ _ _ uses ?_
  intro event member
  rw [List.mem_singleton] at member
  rw [member]
  rfl

theorem one_byte_rejected (byte : UInt8) (rest : List Bytes) :
    ¬ isAdmitted (connectionRun platform server peer surroundings ([byte] :: rest)) :=
  rejected_of_serve platform server peer surroundings ([byte] :: rest) (serve_one_byte platform server peer byte)

theorem first_byte_alone (byte : UInt8) (rest : Bytes) : ∃ pieces, CutOf (byte :: rest) ([byte] :: pieces) := by
  by_cases last : rest = []
  · refine ⟨[], ?_, ?_⟩
    · rw [last]
      rfl
    · intro piece member
      rw [List.mem_singleton] at member
      rw [member]
      exact List.cons_ne_nil _ _
  · refine ⟨[rest], ?_, ?_⟩
    · rw [List.flatten_cons, List.flatten_singleton, List.singleton_append]
    · intro piece member
      rw [List.mem_cons, List.mem_singleton] at member
      cases member with
      | inl single =>
          rw [single]
          exact List.cons_ne_nil _ _
      | inr remaining =>
          rw [remaining]
          exact last

theorem alike_of_same_reads (first second : List Bytes) (same : SameStream first second) (reads : SameReads server first second) :
    Alike platform (connectionRun platform server peer surroundings first)
    (connectionRun platform server peer surroundings second) := by
  obtain ⟨history, left⟩ := connection_run_agrees platform server peer surroundings first second same reads
  refine ⟨?_, fun _ => ?_, fun _ => ?_⟩
  · rw [isAdmitted, isAdmitted, history]
  · rw [history]
  · have rest : (connectionRun platform server peer surroundings first).state.flatten =
        (connectionRun platform server peer surroundings second).state.flatten := left
    rw [delivered, delivered, history, rest]

end Connections

def unlockedServer : ProxyServer := ⟨none, ⟨none, none⟩⟩
def anonymousHop : ProxyConfig := ⟨none, .socks5, "10.0.0.1", some 1080, none, none, ⟨none, none, none, none, none⟩, 1, none⟩

def accepting : (op : Op) → op.Reply
  | .read _ => .error .failed
  | .readExact _ => .error .failed
  | .reply _ => .ok ()
  | .dial _ => .ok ()
  | .send _ => .ok ()
  | .receive _ => .error .failed
  | .receiveExact count => .ok ⟨(List.range count).map fun i => ([5, 0, 0, 1] : Bytes).getD i 0, by simp⟩
  | .authenticate _ _ => .ok none
  | .authenticateByIp _ => .ok none
  | .load => ([anonymousHop], ⟨0, id, fun _ _ => 0⟩)
  | .relay _ _ => .ok ()
  | .record _ => ()
  | .decrement => ()

end Purroute
