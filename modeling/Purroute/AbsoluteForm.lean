import Purroute.Rewriting

set_option autoImplicit false

namespace Purroute

-- `METHOD scheme://host[:port][path][?query] VERSION`
structure AbsoluteLine where
  method : Str
  secure : Bool
  host : Str
  port : Option Str
  path : Str
  query : Option Str
  version : Str
  methodFilled : method ≠ []
  methodSolid : Solid method
  hostFilled : host ≠ []
  hostFree : ∀ c ∈ host, isWhitespace c = false ∧ c ∉ ['/', '?', '#', '@', ':']
  portDecimal : ∀ digits, port = some digits → digits ≠ [] ∧ digits.all Char.isDigit = true ∧ Nat.ofDigitChars 10 digits 0 ≤ 65535
  pathAbsolute : path = [] ∨ ∃ rest, path = '/' :: rest
  pathSpaceless : ' ' ∉ path
  querySpaceless : ' ' ∉ query.getD []
  oneLine : '\n' ∉ path ++ (query.getD [] ++ version)

namespace AbsoluteLine

variable (line : AbsoluteLine)

def scheme : Str := if line.secure then "https://" else "http://"

def portText : Str :=
  match line.port with
  | none => []
  | some digits => ':' :: digits

def queryText : Str :=
  match line.query with
  | none => []
  | some text => '?' :: text

def authority : Str := line.host ++ line.portText

def uri : Str := line.scheme ++ (line.authority ++ (line.path ++ line.queryText))

def text : Str := line.method ++ ' ' :: (line.uri ++ ' ' :: line.version)

def request (rest : Bytes) : Bytes := utf8 line.text ++ (crlf ++ rest)

def portNumber : UInt16 :=
  match line.port with
  | none => if line.secure then 443 else 80
  | some digits => UInt16.ofNat (Nat.ofDigitChars 10 digits 0)

def origin : Str := (if line.path = [] then ['/'] else line.path) ++ line.queryText

end AbsoluteLine

structure SplitRight (line : AbsoluteLine) (rest : Bytes) : Prop where
  destination : parseHttpTarget (line.request rest) = .ok (line.host, line.portNumber)
  target : toOriginForm (line.request rest) = utf8 (line.method ++ ' ' :: (line.origin ++ ' ' :: line.version)) ++ (crlf ++ rest)

section Words

theorem first_word (front back : Str) (filled : front ≠ []) (solid : Solid front) (space : ' ' ∈ back) :
    (splitWhitespace (front ++ back)).head? = some (front ++ back.takeWhile fun c => !isWhitespace c) := by
  have dark : Solid (back.takeWhile fun c => !isWhitespace c) := by
    intro c member
    simpa using List.mem_takeWhile_imp member
  cases behind : back.dropWhile fun c => !isWhitespace c with
  | nil =>
      have light := List.dropWhile_eq_nil_iff.mp behind ' ' space
      exact absurd light (by decide)
  | cons c more =>
      have blank : isWhitespace c = true := by
        have stopped := List.head?_dropWhile_not (fun c => !isWhitespace c) back
        rw [behind] at stopped
        simpa using stopped
      have whole : front ++ back = (front ++ back.takeWhile fun c => !isWhitespace c) ++ c :: more := by
        rw [List.append_assoc, ← behind, List.takeWhile_append_dropWhile]
      rw [whole, words_cons _ more c]
      · rfl
      · intro d member
        exact (List.mem_append.mp member).elim (solid d) (dark d)
      · exact blank
      · exact List.append_ne_nil_of_left_ne_nil filled _

theorem parse_u16_chars (text : Str) (port : UInt16) (parsed : parseU16 text = some port) :
    ∀ c ∈ text, c = '+' ∨ c.isDigit = true := by
  intro c member
  rw [parseU16] at parsed
  split at parsed
  · rename_i checked
    have digits := List.all_eq_true.mp checked.2.1
    cases signed : stripPrefix text ['+'] with
    | none =>
        rw [signed] at digits
        exact .inr (digits c member)
    | some rest =>
        rw [signed] at digits
        rw [strip_prefix_some text ['+'] rest signed] at member
        rcases List.mem_cons.mp member with sign | later
        · exact .inl sign
        · exact .inr (digits c later)
  · cases parsed

theorem parse_u16_digits (digits : Str) (filled : digits ≠ []) (decimal : digits.all Char.isDigit = true)
    (small : Nat.ofDigitChars 10 digits 0 ≤ 65535) : parseU16 digits = some (UInt16.ofNat (Nat.ofDigitChars 10 digits 0)) := by
  have unsigned : stripPrefix digits ['+'] = none := by
    cases signed : stripPrefix digits ['+'] with
    | none => rfl
    | some rest =>
        have sign : '+' ∈ digits := by
          rw [strip_prefix_some digits ['+'] rest signed]
          exact List.mem_cons_self
        exact absurd (List.all_eq_true.mp decimal '+' sign) (by decide)
  rw [parseU16, unsigned]
  exact if_pos ⟨filled, decimal, by dsimp only [Option.getD_none]; omega⟩

end Words

section Line

variable (line : AbsoluteLine)

theorem host_absent (c : Char) (barred : c ∈ ['/', '?', '#', '@', ':']) : c ∉ line.host :=
  fun member => (line.hostFree c member).2 barred

theorem port_chars : ∀ c ∈ line.portText, c = ':' ∨ c.isDigit = true := by
  rw [AbsoluteLine.portText]
  cases known : line.port with
  | none => exact List.forall_mem_nil _
  | some digits =>
      obtain ⟨_, decimal, _⟩ := line.portDecimal digits known
      exact List.forall_mem_cons.mpr ⟨.inl rfl, fun c member => .inr (List.all_eq_true.mp decimal c member)⟩

theorem port_absent (c : Char) (other : c ≠ ':') (letter : c.isDigit = false) : c ∉ line.portText := by
  intro member
  rcases port_chars line c member with colon | digit
  · exact other colon
  · rw [letter] at digit
    cases digit

theorem authority_absent (c : Char) (barred : c ∈ ['/', '?', '#', '@', ':']) (other : c ≠ ':') (letter : c.isDigit = false) :
    c ∉ line.authority := by
  intro member
  rcases List.mem_append.mp member with host | port
  · exact host_absent line c barred host
  · exact port_absent line c other letter port

theorem authority_slashless : ∀ c ∈ line.authority, decide (c ≠ '/') = true :=
  fun _ member => decide_eq_true fun same => authority_absent line '/' (by decide) (by decide) (by decide) (same ▸ member)

theorem target_solid : Solid (line.scheme ++ line.authority) := by
  intro c member
  rcases List.mem_append.mp member with scheme | authority
  · rw [AbsoluteLine.scheme] at scheme
    split at scheme
    · exact solid_all "https://" (by decide) c scheme
    · exact solid_all "http://" (by decide) c scheme
  · rcases List.mem_append.mp authority with host | port
    · exact (line.hostFree c host).1
    · rcases port_chars line c port with rfl | digit
      · decide
      · exact digit_dark c digit

theorem scheme_stripped (text : Str) : stripScheme (line.scheme ++ text) = some text := by
  rw [AbsoluteLine.scheme]
  cases line.secure <;> rfl

theorem solid_absent (text : Str) (solid : Solid text) (c : Char) (space : isWhitespace c = true) : c ∉ text := by
  intro member
  rw [solid c member] at space
  cases space

theorem query_text_mem (c : Char) (other : c ≠ '?') : c ∈ line.queryText ↔ c ∈ line.query.getD [] := by
  rw [AbsoluteLine.queryText]
  cases line.query with
  | none => rfl
  | some text => exact List.mem_cons.trans (or_iff_right other)

theorem uri_spaceless : ' ' ∉ line.uri := by
  have front := solid_absent _ (target_solid line) ' ' (by decide)
  have query := (query_text_mem line ' ' (by decide)).not.mpr line.querySpaceless
  have path := line.pathSpaceless
  rw [AbsoluteLine.uri, ← List.append_assoc]
  intro member
  rcases List.mem_append.mp member with before | later
  · exact front before
  · exact (List.mem_append.mp later).elim path query

theorem text_one_line : '\n' ∉ line.text := by
  have method := solid_absent _ line.methodSolid '\n' (by decide)
  have front := solid_absent _ (target_solid line) '\n' (by decide)
  have query := query_text_mem line '\n' (by decide)
  have back := line.oneLine
  have space : '\n' ≠ ' ' := by decide
  simp only [AbsoluteLine.text, AbsoluteLine.uri, List.mem_append, List.mem_cons, query, space, false_or, not_or] at *
  tauto

def overrun : Str :=
  ((line.path ++ (line.queryText ++ ' ' :: line.version)).takeWhile fun c => !isWhitespace c).takeWhile (· ≠ '/')

theorem uri_authority : uriAuthority line.text = some (line.authority ++ overrun line) := by
  have filled : line.scheme ++ line.authority ≠ [] := by
    rw [AbsoluteLine.scheme]
    cases line.secure <;> exact List.cons_ne_nil _ _
  have space : ' ' ∈ line.path ++ (line.queryText ++ ' ' :: line.version) := by
    apply List.mem_append_right
    apply List.mem_append_right
    exact List.mem_cons_self
  have spread : line.text =
    line.method ++ ' ' :: ((line.scheme ++ line.authority) ++ (line.path ++ (line.queryText ++ ' ' :: line.version))) := by
    simp [AbsoluteLine.text, AbsoluteLine.uri]
  have words : (splitWhitespace line.text)[1]? = some (line.scheme ++ (line.authority ++
      (line.path ++ (line.queryText ++ ' ' :: line.version)).takeWhile fun c => !isWhitespace c)) := by
    rw [spread, words_cons line.method _ ' ' line.methodSolid (by decide) line.methodFilled, List.getElem?_cons_succ,
      ← List.head?_eq_getElem?, first_word _ _ filled (target_solid line) space, List.append_assoc]
  rw [uriAuthority, words]
  dsimp only
  rw [scheme_stripped, Option.bind_some, List.takeWhile_append_of_pos (authority_slashless line), nonEmpty, if_neg]
  · rfl
  · exact List.append_ne_nil_of_left_ne_nil (List.append_ne_nil_of_left_ne_nil line.hostFilled _) _

variable (rest : Bytes)

theorem request_target : parseHttpTarget (line.request rest) = splitHostPort (line.authority ++ overrun line) 80 := by
  have decoded : fromUtf8Lossy (line.request rest) = line.text ++ '\r' :: '\n' :: fromUtf8Lossy rest := by
    rw [AbsoluteLine.request, lossy_encoded_append]
    exact congrArg (line.text ++ ·) (lossy_encoded_append ['\r', '\n'] rest)
  rw [parseHttpTarget, decoded, lines_cons line.text _ (text_one_line line)]
  dsimp only [List.head?_cons]
  rw [uri_authority]

theorem overrun_query (empty : line.path = []) (text : Str) (query : line.query = some text) :
    ∃ more, overrun line = '?' :: more := by
  rw [overrun, empty, AbsoluteLine.queryText, query]
  exact ⟨_, rfl⟩

theorem overrun_nothing (ends : line.path ≠ [] ∨ line.query = none) : overrun line = [] := by
  rw [overrun]
  rcases line.pathAbsolute with empty | ⟨more, slash⟩
  · have plain := ends.resolve_left (not_not.mpr empty)
    rw [empty, AbsoluteLine.queryText, plain]
    rfl
  · rw [slash]
    rfl

theorem authority_split : splitHostPort line.authority 80 =
    .ok (line.host, if line.port = none then 80 else line.portNumber) := by
  rw [AbsoluteLine.authority, AbsoluteLine.portText, AbsoluteLine.portNumber, splitHostPort]
  cases known : line.port with
  | none =>
      dsimp only
      rw [List.append_nil, (rsplit_once_none ':' line.host).mpr (host_absent line ':' (by decide)), if_pos rfl]
  | some digits =>
      obtain ⟨filled, decimal, small⟩ := line.portDecimal digits known
      have colonless : ':' ∉ digits := fun member => absurd (List.all_eq_true.mp decimal ':' member) (by decide)
      dsimp only
      rw [rsplit_once_append ':' line.host digits colonless]
      dsimp only
      rw [parse_u16_digits digits filled decimal small, if_neg (fun same => by cases same)]

theorem authority_with_query (more : Str) (port : UInt16) :
    splitHostPort (line.authority ++ '?' :: more) 80 ≠ .ok (line.host, port) := by
  intro parsed
  rw [splitHostPort] at parsed
  cases cut : rsplitOnce ':' (line.authority ++ '?' :: more) with
  | none =>
      rw [cut] at parsed
      have same : line.authority ++ '?' :: more = line.host := congrArg Prod.fst (Except.ok.inj parsed)
      have asked : '?' ∈ line.host := same ▸ List.mem_append_right _ List.mem_cons_self
      exact host_absent line '?' (by decide) asked
  | some sides =>
      obtain ⟨left, digits⟩ := sides
      obtain ⟨whole, _⟩ := rsplit_once_some ':' _ left digits cut
      rw [cut] at parsed
      dsimp only at parsed
      cases number : parseU16 digits with
      | none =>
          rw [number] at parsed
          cases parsed
      | some value =>
          rw [number] at parsed
          have same : left = line.host := congrArg Prod.fst (Except.ok.inj parsed)
          rw [same, AbsoluteLine.authority, List.append_assoc, List.append_cancel_left_eq, AbsoluteLine.portText] at whole
          cases known : line.port with
          | none =>
              rw [known] at whole
              exact absurd (List.cons.inj whole).1 (by decide)
          | some ownDigits =>
              rw [known] at whole
              have asked : '?' ∈ digits := (List.cons.inj whole).2 ▸ List.mem_append_right _ List.mem_cons_self
              exact (parse_u16_chars digits value number '?' asked).elim (by decide) (by decide)

theorem origin_path_line (ends : line.path ≠ [] ∨ line.query = none) : originPath line.uri = some line.origin := by
  rw [originPath, AbsoluteLine.uri, scheme_stripped, Option.map_some, AbsoluteLine.origin]
  rcases line.pathAbsolute with empty | ⟨more, slash⟩
  · have plain := ends.resolve_left (not_not.mpr empty)
    have absent : '/' ∉ line.authority := authority_absent line '/' (by decide) (by decide) (by decide)
    have whole : line.authority ++ (line.path ++ line.queryText) = line.authority := by
      rw [empty, AbsoluteLine.queryText, plain]
      exact List.append_nil _
    rw [whole, if_neg absent, if_pos empty, AbsoluteLine.queryText, plain]
    rfl
  · have present : '/' ∈ line.authority ++ (line.path ++ line.queryText) := by
      rw [slash]
      exact List.mem_append_right _ List.mem_cons_self
    rw [if_pos present, List.dropWhile_append_of_pos (authority_slashless line), slash, if_neg (List.cons_ne_nil _ _)]
    rfl

theorem request_rewritten (ends : line.path ≠ [] ∨ line.query = none) : toOriginForm (line.request rest) =
    utf8 (line.method ++ ' ' :: (line.origin ++ ' ' :: line.version)) ++ (crlf ++ rest) := by
  have clean : ¬ crlf <:+: utf8 line.text := by
    intro found
    have feed : (10 : UInt8) ∈ utf8 line.text := found.subset (by decide)
    exact text_one_line line (utf8_ascii_mem line.text '\n' (by decide) feed)
  have method := solid_absent _ line.methodSolid ' ' (by decide)
  rw [AbsoluteLine.request, origin_form_first _ rest clean, from_utf8_encoded, Option.bind_some, AbsoluteLine.text,
    origin_line_cut _ _ _ method (uri_spaceless line), origin_path_line line ends]
  rfl

theorem absolute_line_split_iff :
    SplitRight line rest ↔ (line.path ≠ [] ∨ line.query = none) ∧ (line.secure = false ∨ line.port ≠ none) := by
  constructor
  · intro right
    have destination := right.destination
    rw [request_target] at destination
    have ends : line.path ≠ [] ∨ line.query = none := by
      by_contra both
      rw [not_or, not_not] at both
      obtain ⟨text, query⟩ := Option.ne_none_iff_exists'.mp both.2
      obtain ⟨more, behind⟩ := overrun_query line both.1 text query
      rw [behind] at destination
      exact authority_with_query line more _ destination
    refine ⟨ends, ?_⟩
    rw [overrun_nothing line ends, List.append_nil, authority_split] at destination
    have number := congrArg Prod.snd (Except.ok.inj destination)
    dsimp only at number
    by_cases implicit : line.port = none
    · left
      rw [if_pos implicit, AbsoluteLine.portNumber, implicit] at number
      cases secure : line.secure with
      | false => rfl
      | true =>
          rw [secure] at number
          exact absurd number (by decide)
    · exact .inr implicit
  · intro both
    obtain ⟨ends, known⟩ := both
    constructor
    case destination =>
      rw [request_target, overrun_nothing line ends, List.append_nil, authority_split]
      by_cases implicit : line.port = none
      · have plain := known.resolve_right (not_not.mpr implicit)
        rw [if_pos implicit, AbsoluteLine.portNumber, implicit, plain]
        rfl
      · rw [if_neg implicit]
    case target => exact request_rewritten line rest ends

end Line

def secureLine : AbsoluteLine where
  method := "GET"
  secure := true
  host := ['a']
  port := none
  path := "/x"
  query := none
  version := "HTTP/1.1"
  methodFilled := by decide
  methodSolid := solid_all "GET" (by decide)
  hostFilled := List.cons_ne_nil _ _
  hostFree := List.forall_mem_singleton.mpr ⟨by decide, by decide⟩
  portDecimal := fun digits known => by cases known
  pathAbsolute := .inr ⟨['x'], rfl⟩
  pathSpaceless := by decide
  querySpaceless := by decide
  oneLine := by decide

theorem secure_line_on_port_80 : ¬ ∀ line rest, SplitRight line rest := by
  intro always
  have destination := (always secureLine []).destination
  rw [request_target, overrun_nothing secureLine (.inl (List.cons_ne_nil _ _)), List.append_nil, authority_split] at destination
  have number := congrArg Prod.snd (Except.ok.inj destination)
  exact absurd number (by decide)

end Purroute
