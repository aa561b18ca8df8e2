import Purroute.Gate

set_option autoImplicit false

namespace Purroute

open Interaction Interaction.Program

theorem except_runs {A B : Type} (outcome : Except Failure A) (next : A → Router B) (trace : History) (value : B)
    (run : Runs ((ofExcept outcome).bind next) trace (.ok value)) :
    ∃ result, outcome = .ok result ∧ Runs (next result) trace (.ok value) := by
  cases outcome with
  | ok result => exact ⟨result, rfl, run⟩
  | error failure => cases run

theorem of_except_runs {A : Type} (outcome : Except Failure A) (trace : History) (value : A)
    (run : Runs (ofExcept outcome) trace (.ok value)) : trace = [] ∧ outcome = .ok value := by
  cases outcome with
  | ok result =>
      obtain ⟨rfl, same⟩ := reaches_done _ _ _ run
      cases same
      exact ⟨rfl, rfl⟩
  | error failure => cases run

theorem admitted_runs {A : Type} (reply : Except Fault (Option Account)) (result : Account → A) (trace : History) (value : A)
    (run : Runs ((admitted reply).bind fun account =>
      (ofExcept (checkBandwidth account.bandwidthLimit)).bind fun _ => .done (result account)) trace (.ok value)) :
    ∃ account, reply = .ok (some account) ∧ HasAllowance account ∧ trace = [] ∧ value = result account := by
  rcases lookup_cases reply result with ⟨account, rfl, allowance, ends⟩ | ⟨_, failure, refused⟩
  · rw [ends] at run
    obtain ⟨rfl, same⟩ := reaches_done _ _ _ run
    cases same
    exact ⟨account, rfl, allowance, rfl, rfl⟩
  · rw [refused] at run
    cases run

section Logins

variable (peer : IpAddr) (trace : History)

theorem authenticate_by_ip_runs (id : Int) (run : Runs (authenticateByIp peer) trace (.ok id)) :
    ∃ account, trace = [askedByIp peer (.ok (some account))] ∧ HasAllowance account ∧ id = account.id := by
  cases run with
  | step _ _ reply later _ tail =>
      obtain ⟨account, rfl, allowance, rfl, same⟩ := admitted_runs reply (fun account => account.id) later id tail
      exact ⟨account, rfl, allowance, same⟩

theorem authenticate_runs (rawUsername password : Str) (selection : Selection) (id : Int)
    (run : Runs (authenticate rawUsername password) trace (.ok (selection, id))) :
    ∃ username account, parseUsername rawUsername = .ok (username, selection) ∧
      trace = [asked username password (.ok (some account))] ∧ HasAllowance account ∧ id = account.id := by
  rw [authenticate] at run
  cases parsed : parseUsername rawUsername with
  | error reason =>
      rw [parsed] at run
      cases run
  | ok pair =>
      rw [parsed] at run
      cases run with
      | step _ _ reply later _ tail =>
          obtain ⟨account, rfl, allowance, rfl, same⟩ := admitted_runs reply (fun account => (pair.2, account.id)) later _ tail
          cases same
          exact ⟨pair.1, account, rfl, rfl, allowance, rfl⟩

inductive Recognised (platform : Platform) (request : Bytes) (peer : IpAddr) : History → Account → Prop
  | address (account : Account) (bare : authHeader platform request = none) :
      Recognised platform request peer [askedByIp peer (.ok (some account))] account
  | password (account : Account) (line text rawUsername password username : Str) (selection : Selection)
      (header : authHeader platform request = some line) (decoded : decodeHeader platform line = .ok (some text))
      (fields : splitCredentials text = some (rawUsername, password))
        (parsed : parseUsername rawUsername = .ok (username, selection)) :
      Recognised platform request peer [asked username password (.ok (some account))] account

theorem authenticate_user_runs (platform : Platform) (config : RouterConfig) (request : Bytes) (id : Option Int)
    (login : config.auth = some true) (run : Runs (authenticateUser platform config request peer) trace (.ok id)) :
    ∃ account, Recognised platform request peer trace account ∧ HasAllowance account ∧ id = some account.id := by
  rw [authenticateUser, if_pos login] at run
  cases header : authHeader platform request with
  | none =>
      rw [header] at run
      rcases runs_bind _ _ _ _ run with ⟨_, _, mismatch⟩ | ⟨known, before, after, rfl, asks, ends⟩
      · cases mismatch
      · obtain ⟨account, rfl, allowance, rfl⟩ := authenticate_by_ip_runs peer before known asks
        obtain ⟨rfl, same⟩ := reaches_done _ _ _ ends
        cases same
        exact ⟨account, .address account header, allowance, rfl⟩
  | some line =>
      rw [header] at run
      obtain ⟨credentials, decoded, behind⟩ := except_runs _ _ _ _ run
      cases credentials with
      | none => cases behind
      | some text =>
          rw [Option.bind_some] at behind
          cases fields : splitCredentials text with
          | none =>
              rw [fields] at behind
              cases behind
          | some pair =>
              obtain ⟨rawUsername, password⟩ := pair
              rw [fields] at behind
              rcases runs_bind _ _ _ _ behind with ⟨_, _, mismatch⟩ | ⟨known, before, after, rfl, asks, ends⟩
              · cases mismatch
              · obtain ⟨selection, metered⟩ := known
                obtain ⟨username, account, parsed, rfl, allowance, rfl⟩ :=
                  authenticate_runs before rawUsername password selection metered asks
                obtain ⟨rfl, same⟩ := reaches_done _ _ _ ends
                cases same
                exact ⟨account, .password account line text rawUsername password username selection header decoded fields parsed,
                  allowance, rfl⟩

def wrote (bytes : Bytes) : Event := ⟨.reply bytes, (.ok () : Except Fault Unit)⟩

def readOnce (limit : Nat) (bytes : { bytes : Bytes // bytes.length ≤ limit }) : Event :=
  ⟨.read limit, (.ok bytes : Except Fault { bytes : Bytes // bytes.length ≤ limit })⟩

theorem client_write_runs {A : Type} (bytes : Bytes) (next : Unit → Router A) (value : A)
    (run : Runs ((clientWrite bytes).bind next) trace (.ok value)) :
    ∃ later, trace = wrote bytes :: later ∧ Runs (next ()) later (.ok value) := by
  cases run with
  | step _ _ reply later _ tail =>
      obtain ⟨⟨⟩, rfl, rest⟩ := io_bind_ok later value reply next tail
      exact ⟨later, rfl, rest⟩

theorem client_read_runs {A : Type} (limit : Nat) (next : Bytes → Router A) (value : A)
    (run : Runs ((clientRead limit).bind next) trace (.ok value)) :
    ∃ bytes later, trace = readOnce limit bytes :: later ∧ Runs (next bytes.val) later (.ok value) := by
  cases run with
  | step _ _ reply later _ tail =>
      obtain ⟨bytes, rfl, rest⟩ := read_bind_ok later value reply Subtype.val next tail
      exact ⟨bytes, later, rfl, rest⟩

theorem socks5_authenticate_runs (config : RouterConfig) (methods : Bytes) (selection : Selection) (id : Option Int)
    (login : config.auth = some true) (run : Runs (socks5Authenticate config methods) trace (.ok (selection, id))) :
    ∃ message rawUsername password username account, socks5Credentials message.val = .ok (rawUsername, password) ∧
      parseUsername rawUsername = .ok (username, selection) ∧ HasAllowance account ∧ id = some account.id ∧
      trace = [wrote [0x05, 0x02], readOnce 513 message, asked username password (.ok (some account)), wrote [0x01, 0x00]] := by
  rw [socks5Authenticate, if_pos login] at run
  by_cases offered : 0x02 ∈ methods
  · rw [if_pos offered] at run
    obtain ⟨later, rfl, reads⟩ := client_write_runs trace _ _ _ run
    obtain ⟨message, rest, rfl, logs⟩ := client_read_runs later 513 _ _ reads
    rcases runs_bind _ _ _ _ logs with ⟨_, _, mismatch⟩ | ⟨⟨known, metered⟩, before, after, rfl, asks, confirms⟩
    · cases mismatch
    obtain ⟨⟨rawUsername, password⟩, presented, authenticates⟩ := except_runs _ _ _ _ asks
    obtain ⟨username, account, parsed, rfl, allowance, rfl⟩ :=
      authenticate_runs before rawUsername password known metered authenticates
    obtain ⟨last, rfl, ends⟩ := client_write_runs after _ _ _ confirms
    obtain ⟨rfl, same⟩ := reaches_done _ _ _ ends
    cases same
    exact ⟨message, rawUsername, password, username, account, presented, parsed, allowance, rfl, rfl⟩
  · rw [if_neg offered] at run
    obtain ⟨later, rfl, refused⟩ := client_write_runs trace _ _ _ run
    cases refused

end Logins

end Purroute
