import Purroute.Encoding
import Purroute.Passage
import Purroute.Pipes

set_option autoImplicit false

namespace Purroute

open Interaction Interaction.Program

-- A write that fails has put less than the whole on the wire, an exact read
-- that fails has taken less than it asked for, any other has taken nothing.
def Written (bytes : Bytes) (result : Except Fault Unit) (out : Bytes) : Prop :=
  match result with
  | .ok _ => out = bytes
  | .error _ => out <+: bytes ∧ out.length < bytes.length

def TakenSome (limit : Nat) (result : Except Fault { bytes : Bytes // bytes.length ≤ limit }) (input : Bytes) : Prop :=
  match result with
  | .ok bytes => input = bytes.val
  | .error _ => input = []

def TakenExactly (count : Nat) (result : Except Fault { bytes : Bytes // bytes.length = count }) (input : Bytes) : Prop :=
  match result with
  | .ok bytes => input = bytes.val
  | .error _ => input.length < count

def clientPort : Port signature UInt8 where
  wrote event out :=
    match event with
    | ⟨.reply bytes, result⟩ => Written bytes result out
    | ⟨.relay _ _, _⟩ => True
    | _ => out = []
  took event input :=
    match event with
    | ⟨.read limit, result⟩ => TakenSome limit result input
    | ⟨.readExact count, result⟩ => TakenExactly count result input
    | ⟨.relay _ _, _⟩ => True
    | _ => input = []

def upstreamPort (platform : Platform) : Port signature UInt8 where
  wrote event out :=
    match event with
    | ⟨.send message, result⟩ => Written (message.bytes platform) result out
    | ⟨.relay _ _, _⟩ => True
    | _ => out = []
  took event input :=
    match event with
    | ⟨.receive limit, result⟩ => TakenSome limit result input
    | ⟨.receiveExact count, result⟩ => TakenExactly count result input
    | ⟨.relay _ _, _⟩ => True
    | _ => input = []

def Unfaulted (event : Event) : Prop :=
  match event with
  | ⟨.read limit, result⟩ => ∃ bytes : { bytes : Bytes // bytes.length ≤ limit }, result = .ok bytes ∧ bytes.val ≠ []
  | ⟨.receive limit, result⟩ => ∃ bytes : { bytes : Bytes // bytes.length ≤ limit }, result = .ok bytes
  | ⟨.readExact count, result⟩ => ∃ bytes : { bytes : Bytes // bytes.length = count }, result = .ok bytes
  | ⟨.receiveExact count, result⟩ => ∃ bytes : { bytes : Bytes // bytes.length = count }, result = .ok bytes
  | ⟨.reply _, result⟩ => result = (.ok () : Except Fault Unit)
  | ⟨.send _, result⟩ => result = (.ok () : Except Fault Unit)
  | ⟨.dial _, result⟩ => result = (.ok () : Except Fault Unit)
  | _ => True

def greeting (platform : Platform) (proxy : ProxyConfig) : Bytes := (Message.methods (offeredMethods proxy)).bytes platform
def loginOf (platform : Platform) (proxy : ProxyConfig) : Bytes :=
  match credentials proxy with
  | some (username, password) => (Message.userPass username password).bytes platform
  | none => []
def requestOf (platform : Platform) (host : Str) (port : UInt16) : Bytes := (Message.connect5 host port).bytes platform

-- What the outbound handshake writes, from what it has read so far: its login
-- and its request each wait for the answer before.
def negotiation (platform : Platform) (proxy : ProxyConfig) (host : Str) (port : UInt16) (taken : Bytes) : Bytes :=
  greeting platform proxy ++
    if taken.length < 2 then []
    else if byteAt taken 1 = 0x02 then
      loginOf platform proxy ++ if taken.length < 4 ∨ byteAt taken 3 ≠ 0x00 then [] else requestOf platform host port
    else if byteAt taken 1 = 0x00 then requestOf platform host port
    else []

section Bytes

theorem byte_at_left (front back : Bytes) (i : Nat) (inside : i < front.length) : byteAt (front ++ back) i = byteAt front i := by
  simp [byteAt, List.getElem?_append_left inside]

theorem byte_at_right (front back : Bytes) (i : Nat) : byteAt (front ++ back) (front.length + i) = byteAt back i := by
  simp [byteAt, List.getElem?_append_right]

theorem byte_at_start (front whole : Bytes) (i : Nat) (part : front <+: whole) (inside : i < front.length) :
    byteAt whole i = byteAt front i := by
  obtain ⟨back, rfl⟩ := part
  exact byte_at_left front back i inside

theorem more_arrived (taken incoming : Bytes) (count : Nat) (part : taken <+: incoming)
    (enough : taken.length + count ≤ incoming.length) :
    ∃ bytes : Bytes, bytes.length = count ∧ taken ++ bytes <+: incoming := by
  obtain ⟨back, rfl⟩ := part
  rw [List.length_append] at enough
  exact ⟨back.take count, by rw [List.length_take]; omega, (List.prefix_append_right_inj _).mpr (List.take_prefix _ _)⟩

theorem whole_of_length (front whole : Bytes) (part : front <+: whole) (long : whole.length ≤ front.length) : front = whole :=
  part.eq_of_length (Nat.le_antisymm part.length_le long)

end Bytes

section Handshakes

variable (platform : Platform) (proxy : ProxyConfig) (host : Str) (port : UInt16)

theorem negotiation_monotone : Monotone (negotiation platform proxy host port) := by
  intro short long part
  have length := part.length_le
  rw [negotiation, negotiation]
  apply (List.prefix_append_right_inj _).mpr
  by_cases first : short.length < 2
  · rw [if_pos first]
    exact List.nil_prefix
  · have later : ¬ long.length < 2 := by omega
    rw [if_neg first, if_neg later, byte_at_start short long 1 part (by omega)]
    by_cases password : byteAt short 1 = 0x02
    · rw [if_pos password, if_pos password]
      apply (List.prefix_append_right_inj _).mpr
      by_cases second : short.length < 4
      · rw [if_pos (.inl second)]
        exact List.nil_prefix
      · have same : (long.length < 4 ∨ byteAt long 3 ≠ 0x00) ↔ (short.length < 4 ∨ byteAt short 3 ≠ 0x00) := by
          rw [byte_at_start short long 3 part (by omega)]
          simp only [second, false_or, or_iff_right_iff_imp]
          omega
        rw [if_congr same rfl rfl]
    · rw [if_neg password, if_neg password]

theorem negotiation_start (taken : Bytes) (early : taken.length < 2) :
    negotiation platform proxy host port taken = greeting platform proxy := by
  rw [negotiation, if_pos early, List.append_nil]

theorem negotiation_login (taken : Bytes) (early : 2 ≤ taken.length) (late : taken.length < 4)
    (password : byteAt taken 1 = 0x02) :
    negotiation platform proxy host port taken = greeting platform proxy ++ loginOf platform proxy := by
  rw [negotiation, if_neg (by omega), if_pos password, if_pos (.inl late), List.append_nil]

theorem negotiation_open (taken : Bytes) (early : 2 ≤ taken.length) (anonymous : byteAt taken 1 = 0x00) :
    negotiation platform proxy host port taken = greeting platform proxy ++ requestOf platform host port := by
  rw [negotiation, if_neg (by omega), if_neg (by rw [anonymous]; decide), if_pos anonymous]

theorem negotiation_admitted (taken : Bytes) (early : 4 ≤ taken.length) (password : byteAt taken 1 = 0x02)
    (admitted : byteAt taken 3 = 0x00) :
    negotiation platform proxy host port taken =
      greeting platform proxy ++ (loginOf platform proxy ++ requestOf platform host port) := by
  rw [negotiation, if_neg (by omega), if_pos password, if_neg]
  rintro (short | refused)
  · omega
  · exact refused admitted

structure Cleared (taken : Bytes) : Prop where
  replies : (taken.length = 2 ∧ byteAt taken 1 = 0x00) ∨ (taken.length = 4 ∧ byteAt taken 1 = 0x02 ∧ byteAt taken 3 = 0x00)

theorem negotiation_cleared (taken more : Bytes) (cleared : Cleared taken) :
    negotiation platform proxy host port (taken ++ more) = negotiation platform proxy host port taken := by
  rcases cleared.replies with ⟨length, anonymous⟩ | ⟨length, password, admitted⟩
  · rw [negotiation_open _ _ _ _ taken (by omega) anonymous,
      negotiation_open _ _ _ _ _ (by simp; omega) (by rwa [byte_at_left _ _ _ (by omega)])]
  · rw [negotiation_admitted _ _ _ _ taken (by omega) password admitted,
      negotiation_admitted _ _ _ _ _ (by simp; omega) (by rwa [byte_at_left _ _ _ (by omega)])
        (by rwa [byte_at_left _ _ _ (by omega)])]

def Awaited (taken : Bytes) (count : Nat) : Prop :=
  (taken = [] ∧ count = 2) ∨ (taken.length = 2 ∧ (byteAt taken 1 = 0x02 → count = 2)) ∨ 4 ≤ taken.length

def HandshakeAsks (flow : Flow UInt8) (op : Op) : Prop :=
  match op with
  | .send _ => flow.sent <+: negotiation platform proxy host port flow.taken
  | .receiveExact count => flow.sent = negotiation platform proxy host port flow.taken ∧ Awaited flow.taken count
  | _ => False

def HandshakeFails (flow : Flow UInt8) (_failure : Failure) : Prop :=
  flow.sent <+: negotiation platform proxy host port flow.taken

structure Concluded (flow : Flow UInt8) : Prop where
  sent : flow.sent = negotiation platform proxy host port flow.taken
  taken : ∃ login response address, flow.taken = login ++ (response ++ address) ∧ Cleared login ∧ response.length = 4 ∧
    (byteAt response 3 = 0x01 → address.length = 6)

end Handshakes

section Rules

variable {A : Type} {may : Bytes → Bytes → Prop} {asks : Flow UInt8 → Op → Prop} {fails : Flow UInt8 → Failure → Prop}
  (flow : Flow UInt8)

theorem send_follows (platform : Platform) (message : Message) (ends : Flow UInt8 → Unit → Prop)
    (asked : asks flow (.send message)) (whole : ends (flow.after (message.bytes platform) []) ())
    (failing : ∀ out failure, out <+: message.bytes platform → fails (flow.after out []) failure) :
    Follows (upstreamPort platform) may asks ends fails flow (send message) := by
  refine ⟨asked, fun (reply : Except Fault Unit) out input wrote took _ => ?_⟩
  have none : input = [] := took
  subst none
  cases reply with
  | ok value =>
      have all : out = message.bytes platform := wrote
      subst all
      exact whole
  | error fault =>
      have part : out <+: message.bytes platform ∧ out.length < (message.bytes platform).length := wrote
      cases fault <;> exact failing out _ part.1

theorem fetch_follows (platform : Platform) (count : Nat)
    (result : Except Fault { bytes : Bytes // bytes.length = count } → Router { bytes : Bytes // bytes.length = count })
    (value : ∀ bytes, result (.ok bytes) = .done bytes) (fault : ∀ fault, ∃ failure, result (.error fault) = .fail failure)
    (ends : Flow UInt8 → Bytes → Prop) (asked : asks flow (.receiveExact count))
    (whole : ∀ bytes, bytes.length = count → may flow.sent (flow.taken ++ bytes) → ends (flow.after [] bytes) bytes)
    (failing : ∀ input failure, input.length < count → fails (flow.after [] input) failure) :
    Follows (upstreamPort platform) may asks ends fails flow
      (.ask (.receiveExact count) fun reply => (result reply).bind fun bytes => .done bytes.val) := by
  refine ⟨asked, fun (reply : Except Fault { bytes : Bytes // bytes.length = count }) out input wrote took allowed => ?_⟩
  have none : out = [] := wrote
  subst none
  cases reply with
  | ok bytes =>
      have all : input = bytes.val := took
      subst all
      change Follows _ _ _ _ _ _ ((result (.ok bytes)).bind _)
      rw [value bytes]
      exact whole bytes.val bytes.property allowed
  | error reason =>
      have part : input.length < count := took
      obtain ⟨failure, failed⟩ := fault reason
      change Follows _ _ _ _ _ _ ((result (.error reason)).bind _)
      rw [failed]
      exact failing input failure part

theorem io_fault {R : Type} (fault : Fault) : ∃ failure, io (.error fault : Except Fault R) = .fail failure := by
  cases fault <;> exact ⟨_, rfl⟩

theorem within_fault {R : Type} (expired : ProxyError) (fault : Fault) :
    ∃ failure, ioWithin expired (.error fault : Except Fault R) = .fail failure := by
  cases fault <;> exact ⟨_, rfl⟩

end Rules

section Handshakes

variable (platform : Platform) (proxy : ProxyConfig) (host : Str) (port : UInt16)

abbrev Negotiates {A : Type} (ends : Flow UInt8 → A → Prop) (flow : Flow UInt8) (program : Router A) : Prop :=
  Follows (upstreamPort platform) (fun _ _ => True) (HandshakeAsks platform proxy host port) ends
    (HandshakeFails platform proxy host port) flow program

def Requests (flow : Flow UInt8) : Prop :=
  Cleared flow.taken ∧ flow.sent ++ requestOf platform host port = negotiation platform proxy host port flow.taken

theorem greeting_part (taken : Bytes) : greeting platform proxy <+: negotiation platform proxy host port taken :=
  List.prefix_append _ _

theorem auth_negotiates (texts : Socks5Texts) (choice : Bytes) (length : choice.length = 2) :
    Negotiates platform proxy host port (fun flow _ => Requests platform proxy host port flow) ⟨greeting platform proxy, choice⟩
      (socks5Auth texts proxy (byteAt choice 1)) := by
  rw [socks5Auth]
  by_cases password : byteAt choice 1 = 0x02
  · rw [if_pos password]
    cases known : credentials proxy with
    | none => exact greeting_part platform proxy host port choice
    | some pair =>
        have login : loginOf platform proxy = (Message.userPass pair.1 pair.2).bytes platform := by rw [loginOf, known]
        have waiting := negotiation_login platform proxy host port choice (by omega) (by omega) password
        refine follows_bind (fun flow _ => flow = ⟨greeting platform proxy ++ loginOf platform proxy, choice⟩) _ _ _ _ ?_ ?_
        · refine send_follows _ platform _ _ (greeting_part platform proxy host port choice) ?_ ?_
          · simp [Flow.after, login]
          · intro out failure part
            change _ ++ out <+: negotiation platform proxy host port (choice ++ [])
            rw [List.append_nil, waiting, login]
            exact (List.prefix_append_right_inj _).mpr part
        · intro flow _ same
          subst same
          refine follows_bind (fun flow verdict => verdict.length = 2 ∧
            flow = ⟨greeting platform proxy ++ loginOf platform proxy, choice ++ verdict⟩) _ _ _ _ ?_ ?_
          · refine fetch_follows _ platform 2 io (fun _ => rfl) io_fault _
              ⟨waiting.symm, .inr (.inl ⟨length, fun _ => rfl⟩)⟩ ?_ ?_
            · intro verdict two _
              exact ⟨two, by simp [Flow.after]⟩
            · intro input failure short
              change _ ++ [] <+: negotiation platform proxy host port (choice ++ input)
              rw [List.append_nil, negotiation_login platform proxy host port (choice ++ input) (by simp; omega) (by simp; omega)
                (by rwa [byte_at_left _ _ _ (by omega)])]
          · intro flow verdict answered
            obtain ⟨two, same⟩ := answered
            subst same
            have first : byteAt (choice ++ verdict) 1 = 0x02 := by rwa [byte_at_left _ _ _ (by omega)]
            have last : byteAt (choice ++ verdict) 3 = byteAt verdict 1 := by
              simp [byteAt, List.getElem?_append_right, length]
            rw [checkVerdict]
            by_cases granted : byteAt verdict 1 = 0x00
            · rw [if_pos granted]
              have cleared : Cleared (choice ++ verdict) := ⟨.inr ⟨by simp; omega, first, last.trans granted⟩⟩
              refine ⟨cleared, ?_⟩
              rw [negotiation_admitted platform proxy host port _ (by simp; omega) first (last.trans granted), List.append_assoc]
            · rw [if_neg granted]
              change greeting platform proxy ++ loginOf platform proxy <+:
                negotiation platform proxy host port (choice ++ verdict)
              rw [negotiation, if_neg (by simp; omega), if_pos first, ← List.append_assoc]
              exact List.prefix_append _ _
  · rw [if_neg password]
    by_cases anonymous : byteAt choice 1 = 0x00
    · rw [if_pos anonymous]
      exact ⟨⟨.inl ⟨length, anonymous⟩⟩, (negotiation_open platform proxy host port choice (by omega) anonymous).symm⟩
    · rw [if_neg anonymous]
      exact greeting_part platform proxy host port choice

structure RequestedBehind (flow : Flow UInt8) (login : Bytes) : Prop where
  cleared : Cleared login
  sent : flow.sent = negotiation platform proxy host port flow.taken
  behind : login <+: flow.taken

theorem requested_more (flow : Flow UInt8) (login input : Bytes)
    (requested : RequestedBehind platform proxy host port flow login) :
    RequestedBehind platform proxy host port (flow.after [] input) login where
  cleared := requested.cleared
  sent := by
    obtain ⟨more, same⟩ := requested.behind
    rw [after_sent, after_taken, List.append_nil, requested.sent, ← same, List.append_assoc,
      negotiation_cleared _ _ _ _ _ _ requested.cleared, negotiation_cleared _ _ _ _ _ _ requested.cleared]
  behind := requested.behind.trans (List.prefix_append _ _)

theorem cleared_settled (login more : Bytes) (cleared : Cleared login) (count : Nat)
    (long : byteAt login 1 = 0x02 ∨ more = [] ∨ 2 ≤ more.length) :
    Awaited (login ++ more) count := by
  rcases cleared.replies with ⟨length, anonymous⟩ | ⟨length, _, _⟩
  · rcases long with password | none | long
    · rw [password] at anonymous
      cases anonymous
    · subst none
      rw [List.append_nil]
      exact .inr (.inl ⟨length, fun password => by rw [password] at anonymous; cases anonymous⟩)
    · exact .inr (.inr (by simp; omega))
  · exact .inr (.inr (by simp; omega))

theorem skip_negotiates (login response : Bytes) (four : response.length = 4) (flow : Flow UInt8)
    (requested : RequestedBehind platform proxy host port flow login) (taken : flow.taken = login ++ response) :
    Negotiates platform proxy host port (fun reached _ => Concluded platform proxy host port reached) flow
      (skipAddress (byteAt response 3)) := by
  have settled : ∀ more count, Awaited (flow.after [] more).taken count := by
    intro more count
    rw [after_taken, taken, List.append_assoc]
    exact cleared_settled login _ requested.cleared count (.inr (.inr (by simp; omega)))
  have reads : ∀ more count, HandshakeAsks platform proxy host port (flow.after [] more) (.receiveExact count) :=
    fun more count =>
    ⟨(requested_more _ _ _ _ flow login more requested).sent, settled more count⟩
  have broken : ∀ more, HandshakeFails platform proxy host port (flow.after [] more) (.error .io) := fun more => by
    rw [HandshakeFails, (requested_more _ _ _ _ flow login more requested).sent]
  have finished : ∀ address, (byteAt response 3 = 0x01 → address.length = 6) →
      Concluded platform proxy host port (flow.after [] address) := by
    intro address size
    refine ⟨(requested_more _ _ _ _ flow login address requested).sent, login, response, address,
      ?_, requested.cleared, four, size⟩
    rw [after_taken, taken, List.append_assoc]
  have joins : ∀ one other, (flow.after [] one).after [] other = flow.after [] (one ++ other) := by
    intro one other
    simp [Flow.after]
  have fetch : ∀ (ends : Flow UInt8 → Bytes → Prop) (more : Bytes) (count : Nat),
      (∀ bytes, bytes.length = count → ends (flow.after [] (more ++ bytes)) bytes) →
      Negotiates platform proxy host port ends (flow.after [] more) (receiveExact count) := by
    intro ends more count value
    refine fetch_follows _ platform count io (fun _ => rfl) io_fault _ (reads more count) ?_ ?_
    · intro bytes length _
      rw [joins]
      exact value bytes length
    · intro input failure _
      rw [joins]
      exact broken (more ++ input)
  have here : flow = flow.after [] [] := (after_nothing flow).symm
  rw [skipAddress]
  split
  · refine follows_bind (fun reached bytes => bytes.length = 6 ∧ reached = flow.after [] bytes) _ _ _ _ ?_ ?_
    · rw [here]
      exact fetch _ [] 6 fun bytes length => ⟨length, by rw [joins, List.nil_append]⟩
    · intro reached bytes same
      rw [same.2]
      exact finished bytes fun _ => same.1
  rename_i other
  split
  · refine follows_bind (fun reached bytes => reached = flow.after [] bytes) _ _ _ _ ?_ ?_
    · rw [here]
      exact fetch _ [] 1 fun bytes _ => by rw [joins, List.nil_append]
    · intro reached bytes same
      subst same
      refine follows_bind (fun reached more => reached = flow.after [] (bytes ++ more)) _ _ _ _
        (fetch _ bytes _ fun more _ => rfl) ?_
      intro reached more same
      subst same
      exact finished _ fun same => absurd same other
  split
  · refine follows_bind (fun reached bytes => reached = flow.after [] bytes) _ _ _ _ ?_ ?_
    · rw [here]
      exact fetch _ [] 18 fun bytes _ => by rw [joins, List.nil_append]
    · intro reached bytes same
      subst same
      exact finished bytes fun same => absurd same other
  · have none := broken []
    rwa [after_nothing] at none

theorem handshake_negotiates (texts : Socks5Texts) :
    Negotiates platform proxy host port (fun flow _ => Concluded platform proxy host port flow) (idle UInt8)
      (socks5Handshake texts proxy host port) := by
  have start := negotiation_start platform proxy host port
  refine follows_bind (fun flow _ => flow = ⟨greeting platform proxy, []⟩) _ _ _ _ ?_ ?_
  · refine send_follows _ platform _ _ List.nil_prefix rfl ?_
    intro out failure part
    change out <+: negotiation platform proxy host port []
    rw [start [] (by simp)]
    exact part
  intro flow _ same
  subst same
  refine follows_bind (fun flow choice => choice.length = 2 ∧ flow = ⟨greeting platform proxy, choice⟩) _ _ _ _ ?_ ?_
  · refine fetch_follows _ platform 2 io (fun _ => rfl) io_fault _ ⟨(start [] (by simp)).symm, .inl ⟨rfl, rfl⟩⟩ ?_ ?_
    · intro choice length _
      exact ⟨length, by simp [Flow.after]⟩
    · intro input failure short
      change _ ++ [] <+: negotiation platform proxy host port ([] ++ input)
      rw [List.append_nil]
      exact greeting_part platform proxy host port _
  intro flow choice answered
  obtain ⟨length, same⟩ := answered
  subst same
  refine follows_bind _ _ _ _ _ (auth_negotiates platform proxy host port texts choice length) fun flow _ requests => ?_
  obtain ⟨cleared, left⟩ := requests
  refine follows_bind (fun reached _ => reached = flow.after (requestOf platform host port) []) _ _ _ _ ?_ ?_
  · refine send_follows _ platform _ _ ?_ rfl ?_
    · change flow.sent <+: _
      rw [← left]
      exact List.prefix_append _ _
    · intro out failure part
      change flow.sent ++ out <+: negotiation platform proxy host port (flow.taken ++ [])
      rw [List.append_nil, ← left]
      exact (List.prefix_append_right_inj _).mpr part
  intro reached _ same
  subst same
  have requested : RequestedBehind platform proxy host port (flow.after (requestOf platform host port) []) flow.taken :=
    ⟨cleared, by rw [after_sent, after_taken, List.append_nil, left], List.prefix_append _ _⟩
  have settled := cleared_settled flow.taken [] cleared 4 (.inr (.inl rfl))
  refine follows_bind (fun reached response => response.length = 4 ∧ RequestedBehind platform proxy host port reached flow.taken ∧
    reached.taken = flow.taken ++ response) _ _ _ _ ?_ ?_
  · refine fetch_follows _ platform 4 (ioWithin texts.expired) (fun _ => rfl) (within_fault texts.expired) _
      ⟨requested.sent, settled⟩ ?_ ?_
    · intro response four _
      exact ⟨four, requested_more _ _ _ _ _ _ response requested, by simp⟩
    · intro input failure _
      rw [HandshakeFails, (requested_more _ _ _ _ _ _ input requested).sent]
  intro reached response answered
  obtain ⟨four, requested, taken⟩ := answered
  rw [socks5Reply]
  split
  · exact skip_negotiates platform proxy host port flow.taken response four reached requested taken
  · change reached.sent <+: negotiation platform proxy host port reached.taken
    rw [requested.sent]

theorem handshake_answers (texts : Socks5Texts) :
    Responds (upstreamPort platform) (negotiation platform proxy host port) (socks5Handshake texts proxy host port) := by
  intro log rest flow reached exchanged
  have there := follows_reaches _ _ rest log _ flow (handshake_negotiates platform proxy host port texts) reached exchanged
  cases rest with
  | done value =>
      have concluded : Concluded platform proxy host port flow := there
      rw [concluded.sent]
  | fail error => exact there
  | ask op next =>
      have asks : HandshakeAsks platform proxy host port flow op := there.1
      cases op with
      | send message => exact asks
      | receiveExact count =>
          obtain ⟨same, _⟩ := asks
          rw [same]
      | _ => exact asks.elim

end Handshakes

end Purroute
