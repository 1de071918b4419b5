import Mathlib.Data.List.TakeWhile
import SparkPlug.ConnectionString
import SparkPlug.FileConfigs

/-!
The sessions that the Python and the Rust client open. Both take their base URL apart and
write a connection string of the parts; the REST calls are made to the base URL itself.
-/
namespace SparkPlug
open Text Authority

inductive Scheme where
  | http
  | https
  deriving DecidableEq

namespace Scheme

def text : Scheme → List Char
  | http => "http".toList
  | https => "https".toList

def defaultPort : Scheme → Nat
  | http => 80
  | https => 443

end Scheme

def isUserInfoChar (c : Char) : Bool := isNameChar c || c = ':'

def isPathChar (c : Char) : Bool := isNameChar c || c = ':' || c = '@' || c = '/'

/-- A base URL, its scheme in the spelling it is written with. -/
structure BaseUrl where
  scheme : Scheme
  spelling : List Char
  spelled : lowerCase spelling = scheme.text
  userInfo : Option (List Char)
  userInfoPlain : ∀ info ∈ userInfo, ∀ c ∈ info, isUserInfoChar c = true
  host : Host
  valid : host.Valid
  port : Option Nat
  bounded : ∀ p ∈ port, p ≤ 65535
  path : List Char
  rooted : ∀ c ∈ path.head?, c = '/'
  pathPlain : ∀ c ∈ path, isPathChar c = true

namespace BaseUrl

def netloc (b : BaseUrl) : List Char :=
  b.userInfo.elim [] (· ++ ['@']) ++ (b.host.written ++ portText b.port)

def text (b : BaseUrl) : List Char := b.spelling ++ "://".toList ++ b.netloc ++ b.path

/-- The port that the REST calls go to. -/
def restPort (b : BaseUrl) : Nat := b.port.getD b.scheme.defaultPort

/-- The port, unless it is the default one of the scheme. -/
def keptPort (b : BaseUrl) : Option Nat :=
  if b.port = some b.scheme.defaultPort then none else b.port

end BaseUrl

/- `urllib.parse` -/

/-- What stands behind the last occurrence of a character, `rpartition`. -/
def afterLast (c : Char) (l : List Char) : List Char := (l.reverse.takeWhile (· ≠ c)).reverse

/-- `partition`, without the separator. -/
def partition (c : Char) (l : List Char) : List Char × List Char :=
  (splitOnceChars c l).getD (l, [])

structure ParseResult where
  scheme : List Char
  netloc : List Char
  deriving DecidableEq

namespace ParseResult

/-- `_hostinfo`: the host without its brackets, and the text of the port. -/
def hostinfo (parsed : ParseResult) : List Char × List Char :=
  let info := afterLast '@' parsed.netloc
  match splitOnceChars '[' info with
  | some (_, bracketed) =>
    let (hostname, rest) := partition ']' bracketed
    (hostname, (partition ':' rest).2)
  | none => partition ':' info

/- The zone of an IPv6 address, behind a percent sign, is not lowered. -/
def lowerHost (text : List Char) : List Char :=
  lowerCase (text.takeWhile (· ≠ '%')) ++ text.dropWhile (· ≠ '%')

def hostname (parsed : ParseResult) : Option (List Char) :=
  if parsed.hostinfo.1 = [] then none else some (lowerHost parsed.hostinfo.1)

/-- None where reading the port raises an error. -/
def port (parsed : ParseResult) : Option (Option Nat) :=
  if parsed.hostinfo.2 = [] then some none
  else
    match readPort parsed.hostinfo.2 with
    | some port => if port ≤ 65535 then some (some port) else none
    | none => none

end ParseResult

/-- The netloc behind two slashes; an error where it has one bracket without the other. -/
def parseNetloc (scheme rest : List Char) : Option ParseResult :=
  let netloc :=
    if "//".toList.isPrefixOf rest = true then
      (rest.drop 2).takeWhile fun c => c ≠ '/' && c ≠ '?' && c ≠ '#'
    else []
  if '[' ∈ netloc ↔ ']' ∈ netloc then some ⟨scheme, netloc⟩ else none

def urlparse (url : List Char) : Option ParseResult :=
  match splitOnceChars ':' url with
  | some (scheme, rest) =>
    if isScheme scheme = true then parseNetloc (lowerCase scheme) rest else parseNetloc [] url
  | none => parseNetloc [] url

/-- None where an error is raised or the connection string is no connection string. -/
def PythonClient.createSession (url token : List Char) : Option ConnectSession :=
  (urlparse url).bind fun parsed =>
    parsed.port.bind fun port =>
      let baseUrl := "sc://".toList ++ (parsed.hostname.getD "None".toList ++ portText port)
      if parsed.scheme = "https".toList then
        let channelBuilder := readConnection (baseUrl ++ "/;use_ssl=true;token=$".toList ++ token)
        channelBuilder.map (·.session [])
      else (readConnection baseUrl).map (·.session [token])

/- The Rust client -/

/-- What the client reads of a parsed URL. -/
structure Url where
  hostStr : Option (List Char)
  port : Option Nat
  deriving DecidableEq

/-- None where an error is returned or the connection string is no connection string. -/
def RustClient.createSession (parse : List Char → Option Url) (baseUrl token : List Char) :
    Option ConnectSession :=
  (parse baseUrl).bind fun url =>
    url.hostStr.bind fun hostStr =>
      let scUrl := "sc://".toList ++ (hostStr ++ portText url.port)
      let useSsl := if "https".toList.isPrefixOf baseUrl = true then ";use_ssl=true".toList else []
      let connection := scUrl ++ "/;token=".toList ++ token ++ useSsl
      (readConnection connection).map (·.session [])

/-- The parser of URLs normalises a host, by which the REST calls name it too, and drops a
default port. -/
def Documented (parse : List Char → Option Url) (normal : Host → Host) (b : BaseUrl) : Prop :=
  (normal b.host).Valid ∧
    parse b.text = some
      { hostStr := some (normal b.host).written, port := b.keptPort }

/-- The session presents the token and nothing else, by TLS exactly where the scheme is
https, at the host and port of the REST calls. -/
def Faithful (b : BaseUrl) (host : Host) (token : List Char) (session : Option ConnectSession) :
    Prop :=
  ∃ s, session = some s ∧ s.bearers = [token] ∧ (s.tls = true ↔ b.scheme = .https) ∧
    s.host.lower = host.lower ∧ s.port = b.restPort

/- Base URLs. -/

theorem spelled_scheme {scheme : Scheme} {spelling : List Char}
    (spelled : lowerCase spelling = scheme.text) : isScheme spelling = true := by
  have alphabetic : scheme.text.all Char.isAlpha = true := by cases scheme <;> decide
  have letters := List.all_eq_true.mp alphabetic
  have alpha : ∀ c ∈ spelling, c.isAlpha = true := by
    intro c member
    have listed : c.toLower ∈ scheme.text := spelled ▸ List.mem_map_of_mem member
    exact alpha_of_lower (letters c.toLower listed)
  cases spelling with
  | nil => cases scheme <;> cases spelled
  | cons c cs =>
    have first := alpha c List.mem_cons_self
    have rest : ∀ d ∈ cs, d.isAlpha = true := fun d hd => alpha d (List.mem_cons_of_mem c hd)
    simp only [isScheme, first, Bool.true_and, List.all_eq_true]
    intro d member
    simp [Char.isAlphanum, rest d member]

namespace BaseUrl

theorem not_mem_user_info (b : BaseUrl) {d : Char} (name : isUserInfoChar d = false)
    (ne : d ≠ '@') : d ∉ b.userInfo.elim [] (· ++ ['@']) := by
  cases written : b.userInfo with
  | none => simp
  | some info =>
    intro member
    rcases List.mem_append.mp member with inside | last
    · have plain := b.userInfoPlain info written d inside
      simp [name] at plain
    · exact ne (List.mem_singleton.mp last)

theorem not_mem_netloc (b : BaseUrl) {d : Char} (info : isUserInfoChar d = false)
    (address : isIpv6Char d = false) (other : d ≠ '@' ∧ d ≠ '[' ∧ d ≠ ']') : d ∉ b.netloc := by
  have name : isNameChar d = false := by
    simp only [isUserInfoChar, Bool.or_eq_false_iff] at info
    exact info.1
  have front := b.not_mem_user_info info other.1
  have back := not_mem_authority b.valid b.port name address other.2
  intro member
  rcases List.mem_append.mp member with inside | behind
  · exact front inside
  · exact back behind

theorem brackets_netloc (b : BaseUrl) : '[' ∈ b.netloc ↔ ']' ∈ b.netloc := by
  have opening := b.not_mem_user_info (d := '[') (by decide) (by decide)
  have closing := b.not_mem_user_info (d := ']') (by decide) (by decide)
  have first := not_mem_port (d := '[') b.port (by decide) (by decide)
  have second := not_mem_port (d := ']') b.port (by decide) (by decide)
  simp only [netloc, List.mem_append, opening, closing, first, second, false_or, or_false]
  have valid := b.valid
  cases written : b.host with
  | name text =>
    rw [written] at valid
    have absent : '[' ∉ text := not_mem_name valid (by decide)
    have missing : ']' ∉ text := not_mem_name valid (by decide)
    simp [Host.written, absent, missing]
  | ipv6 text => simp [Host.written]

/-- The first colon ends the scheme. -/
theorem text_layout (b : BaseUrl) :
    b.text = b.spelling ++ ':' :: ("//".toList ++ (b.netloc ++ b.path)) := by
  simp only [text, List.append_assoc]
  rfl

end BaseUrl

theorem urlparse_text (b : BaseUrl) : urlparse b.text = some ⟨b.scheme.text, b.netloc⟩ := by
  have scheme := spelled_scheme b.spelled
  have plain : ∀ c ∈ b.netloc, (c ≠ '/' && c ≠ '?' && c ≠ '#') = true := by
    have slash := b.not_mem_netloc (d := '/') (by decide) (by decide) (by decide)
    have query := b.not_mem_netloc (d := '?') (by decide) (by decide) (by decide)
    have fragment := b.not_mem_netloc (d := '#') (by decide) (by decide) (by decide)
    intro c member
    have one : c ≠ '/' := fun same => slash (same ▸ member)
    have two : c ≠ '?' := fun same => query (same ▸ member)
    have three : c ≠ '#' := fun same => fragment (same ▸ member)
    simp [one, two, three]
  have stop : b.path.takeWhile (fun c => c ≠ '/' && c ≠ '?' && c ≠ '#') = [] := by
    have rooted := b.rooted
    cases written : b.path with
    | nil => rfl
    | cons c path =>
      rw [written] at rooted
      simp [rooted c rfl]
  have split := split_once_chars_at ':' b.spelling ("//".toList ++ (b.netloc ++ b.path))
    (scheme_no_colon scheme)
  have slashes : "//".toList.isPrefixOf ("//".toList ++ (b.netloc ++ b.path)) = true :=
    List.isPrefixOf_iff_prefix.mpr (List.prefix_append ..)
  have rest : ("//".toList ++ (b.netloc ++ b.path)).drop 2 = b.netloc ++ b.path := rfl
  unfold urlparse
  rw [b.text_layout, split]
  simp only [scheme, ↓reduceIte, parseNetloc, slashes, rest]
  rw [List.takeWhile_append_of_pos plain, stop, List.append_nil, if_pos b.brackets_netloc,
    b.spelled]

theorem after_last_at {c : Char} (front : List Char) {back : List Char} (absent : c ∉ back) :
    afterLast c (front ++ c :: back) = back := by
  have plain : ∀ d ∈ back.reverse, decide (d ≠ c) = true := by
    intro d member
    exact decide_eq_true fun same => absent (same ▸ List.mem_reverse.mp member)
  have layout : (front ++ c :: back).reverse = back.reverse ++ c :: front.reverse := by simp
  unfold afterLast
  rw [layout, List.takeWhile_append_of_pos plain]
  simp

theorem after_last_none {c : Char} {l : List Char} (absent : c ∉ l) : afterLast c l = l := by
  have plain : ∀ d ∈ l.reverse, decide (d ≠ c) = true := by
    intro d member
    exact decide_eq_true fun same => absent (same ▸ List.mem_reverse.mp member)
  unfold afterLast
  rw [List.takeWhile_eq_self_iff.mpr plain, List.reverse_reverse]

theorem host_port_behind (b : BaseUrl) :
    afterLast '@' b.netloc = b.host.written ++ portText b.port := by
  have absent := not_mem_authority b.valid b.port (d := '@') (by decide) (by decide) (by decide)
  unfold BaseUrl.netloc
  cases b.userInfo with
  | none => exact after_last_none absent
  | some info =>
    have layout : (info ++ ['@']) ++ (b.host.written ++ portText b.port) =
        info ++ '@' :: (b.host.written ++ portText b.port) := by simp
    rw [Option.elim_some, layout]
    exact after_last_at info absent

theorem partition_port (port : Option Nat) (front : List Char) (absent : ':' ∉ front) :
    partition ':' (front ++ portText port) = (front, port.elim [] (Nat.toDigits 10)) := by
  cases port with
  | none =>
    have whole : front ++ portText none = front := List.append_nil _
    simp [whole, partition, split_once_chars_none absent]
  | some port => simp [portText, partition, split_once_chars_at ':' front _ absent]

theorem hostinfo_text (b : BaseUrl) :
    ParseResult.hostinfo ⟨b.scheme.text, b.netloc⟩ =
      (b.host.text, b.port.elim [] (Nat.toDigits 10)) := by
  have valid := b.valid
  unfold ParseResult.hostinfo
  simp only [host_port_behind]
  cases written : b.host with
  | name text =>
    rw [written] at valid
    have absent : ':' ∉ text := not_mem_name valid (by decide)
    have opening : '[' ∉ text := not_mem_name valid (by decide)
    have named : '[' ∉ text ++ portText b.port := by
      simp [opening, not_mem_port b.port]
    simp only [Host.written, Host.text, split_once_chars_none named]
    exact partition_port b.port text absent
  | ipv6 text =>
    rw [written] at valid
    have absent : ']' ∉ text := not_mem_ipv6 valid (by decide)
    have opening : splitOnceChars '[' ((Host.ipv6 text).written ++ portText b.port) =
        some ([], text ++ ']' :: portText b.port) := by
      simp [Host.written, splitOnceChars]
    have closing : partition ']' (text ++ ']' :: portText b.port) = (text, portText b.port) := by
      simp [partition, split_once_chars_at ']' text _ absent]
    have behind := partition_port b.port [] List.not_mem_nil
    rw [List.nil_append] at behind
    simp only [opening, closing, behind]
    rfl

theorem hostname_text (b : BaseUrl) :
    ParseResult.hostname ⟨b.scheme.text, b.netloc⟩ = some (ParseResult.lowerHost b.host.text) := by
  have written : b.host.text ≠ [] := by
    have valid := b.valid
    cases host : b.host with
    | name text =>
      rw [host] at valid
      exact valid.1
    | ipv6 text =>
      rw [host] at valid
      rintro rfl
      exact absurd valid.1 (by decide)
  simp [ParseResult.hostname, hostinfo_text, written]

theorem port_text (b : BaseUrl) :
    ParseResult.port ⟨b.scheme.text, b.netloc⟩ = some b.port := by
  unfold ParseResult.port
  rw [hostinfo_text]
  have bounded := b.bounded
  cases written : b.port with
  | none => rfl
  | some port =>
    have digits : Nat.toDigits 10 port ≠ [] := Nat.toDigits_ne_nil
    have bound : port ≤ 65535 := bounded port written
    simp [digits, read_port_digits, bound]

/- The Python client. -/

theorem read_use_ssl_token (token : List Char) (plain : ';' ∉ token) :
    readParams (";use_ssl=true;token=".toList ++ token) =
      some [("use_ssl".toList, "true".toList), ("token".toList, token)] := by
  have keys : ∀ k ∈ ["use_ssl".toList, "token".toList], ';' ∉ k ∧ '=' ∉ k := by decide
  have values : ∀ v ∈ ["true".toList, token], ';' ∉ v :=
    List.forall_mem_cons.mpr ⟨by decide, List.forall_mem_singleton.mpr plain⟩
  have read := read_write_params
    [("use_ssl".toList, "true".toList), ("token".toList, token)] keys values
  have layout : writeParams [("use_ssl".toList, "true".toList), ("token".toList, token)] =
      ";use_ssl=true;token=".toList ++ (token ++ []) := rfl
  rw [layout, List.append_nil] at read
  exact read

section
open ParseResult

theorem lower_host_valid {text : List Char} (valid : (Host.name text).Valid) :
    (Host.name (lowerHost text)).Valid := by
  have parts : text.takeWhile (· ≠ '%') ++ text.dropWhile (· ≠ '%') = text :=
    List.takeWhile_append_dropWhile
  have length : (lowerHost text).length = text.length := by
    rw [lowerHost, List.length_append, lowerCase, List.length_map, ← List.length_append, parts]
  refine ⟨fun empty => valid.1 (List.length_eq_zero_iff.mp (by rw [← length, empty]; rfl)), ?_⟩
  intro c member
  rcases List.mem_append.mp member with front | zone
  · obtain ⟨d, listed, rfl⟩ := List.mem_map.mp front
    exact lower_name_char (valid.2 d (List.takeWhile_subset _ listed))
  · exact valid.2 c (List.dropWhile_subset _ zone)

theorem lower_lower_host (text : List Char) :
    (Host.name (lowerHost text)).lower = (Host.name text).lower := by
  have parts : text.takeWhile (· ≠ '%') ++ text.dropWhile (· ≠ '%') = text :=
    List.takeWhile_append_dropWhile
  have idem : Char.toLower ∘ Char.toLower = Char.toLower :=
    funext lower_idempotent
  have lowered : (lowerHost text).map Char.toLower = text.map Char.toLower := calc
    (lowerHost text).map Char.toLower
      = (text.takeWhile (· ≠ '%')).map Char.toLower ++
          (text.dropWhile (· ≠ '%')).map Char.toLower := by
        simp only [lowerHost, lowerCase, List.map_append, List.map_map, idem]
    _ = text.map Char.toLower := by rw [← List.map_append, parts]
  simp [Host.lower, lowered]

theorem lower_host_address {text : List Char} (valid : (Host.ipv6 text).Valid) :
    Host.ipv6 (lowerHost text) = (Host.ipv6 text).lower := by
  have zone : '%' ∉ text := not_mem_ipv6 valid (by decide)
  have plain : ∀ c ∈ text, decide (c ≠ '%') = true := by
    intro c member
    exact decide_eq_true fun same => zone (same ▸ member)
  have whole := List.takeWhile_eq_self_iff.mpr plain
  have behind := List.dropWhile_eq_nil_iff.mpr plain
  have same : lowerHost text = text.map Char.toLower := by
    rw [lowerHost, whole, behind, List.append_nil, lowerCase]
  simp [Host.lower, same]

/-- The brackets of an IPv6 literal are gone, so what is left names no host. -/
theorem read_python_address (b : BaseUrl) :
    '/' ∉ lowerHost b.host.text ++ portText b.port ∧
      Authority.read (lowerHost b.host.text ++ portText b.port) =
        if b.host.Bracketed then none else some (.name (lowerHost b.host.text), b.port) := by
  have valid := b.valid
  cases written : b.host with
  | name text =>
    rw [written] at valid
    have lowered := lower_host_valid valid
    constructor
    · exact not_mem_authority lowered b.port (by decide) (by decide) (by decide)
    · exact read_written lowered b.port
  | ipv6 text =>
    rw [written] at valid
    have lowered : (Host.ipv6 (lowerHost text)).Valid := by
      rw [lower_host_address valid]
      exact lower_valid valid
    constructor
    · have slash := not_mem_authority (d := '/') lowered b.port (by decide) (by decide) (by decide)
      simp only [Host.written, List.cons_append, List.append_assoc, List.mem_cons,
        List.mem_append, not_or] at slash
      simp only [Host.text, List.mem_append, not_or]
      exact ⟨slash.2.1, slash.2.2.2.2⟩
    · exact read_unbracketed lowered b.port

theorem python_session (b : BaseUrl) (token : List Char) :
    PythonClient.createSession b.text token =
      if b.scheme = .https then
        (readConnection (connectScheme ++ ((lowerHost b.host.text ++ portText b.port) ++
          '/' :: (";use_ssl=true;token=$".toList ++ token)))).map (·.session [])
      else
        (readConnection (connectScheme ++ (lowerHost b.host.text ++ portText b.port))).map
          (·.session [token]) := by
  have https : b.scheme.text = "https".toList ↔ b.scheme = .https := by
    cases b.scheme <;> decide
  unfold PythonClient.createSession
  rw [urlparse_text, Option.bind_some, port_text, Option.bind_some, hostname_text]
  by_cases secured : b.scheme = .https
  · rw [if_pos secured, if_pos (https.mpr secured)]
    have layout (front : List Char) : front ++ "/;use_ssl=true;token=$".toList ++ token =
        front ++ '/' :: (";use_ssl=true;token=$".toList ++ token) := List.append_assoc ..
    rw [layout, List.append_assoc]
    rfl
  · rw [if_neg secured, if_neg fun text => secured (https.mp text)]
    rfl

/-- The dollar sign before the token is part of what the session presents. -/
theorem dollar_presented {authority token : List Char} {connection : Connection}
    (plain : '/' ∉ authority)
    (read : readConnection (connectScheme ++ (authority ++
      '/' :: (";use_ssl=true;token=$".toList ++ token))) = some connection) :
    connection.params.lookup "token".toList ≠ some token := by
  intro presented
  have semicolon := connection_plain read presented
  have params := read_use_ssl_token ('$' :: token) (by simp [semicolon])
  have layout : ";use_ssl=true;token=$".toList ++ token =
      ";use_ssl=true;token=".toList ++ '$' :: token := by
    have dollar : ";use_ssl=true;token=$".toList = ";use_ssl=true;token=".toList ++ ['$'] := by
      decide
    rw [dollar, List.append_assoc, List.singleton_append]
  rw [read_connection_params plain, layout, params] at read
  obtain ⟨address, _, written⟩ := Option.bind_eq_some_iff.mp read
  cases Option.some.inj written
  have other : ("token".toList == "use_ssl".toList) = false := by decide
  rw [List.lookup_cons, other, List.lookup_cons, beq_self_eq_true] at presented
  have longer : ('$' :: token).length = token.length :=
    congrArg List.length (Option.some.inj presented)
  simp at longer

theorem python_faithful_iff (b : BaseUrl) (token : List Char) :
    Faithful b b.host token (PythonClient.createSession b.text token) ↔
      b.scheme = .http ∧ ¬ b.host.Bracketed ∧ b.port ≠ none := by
  obtain ⟨plain, read⟩ := read_python_address b
  rw [python_session]
  cases scheme : b.scheme with
  | https =>
    rw [if_pos rfl]
    constructor
    · rintro ⟨s, opened, presented, _⟩
      obtain ⟨connection, connected, rfl⟩ := Option.map_eq_some_iff.mp opened
      have token := dollar_presented plain connected
      simp only [Connection.session, List.append_nil] at presented
      exact absurd (Option.toList_eq_singleton_iff.mp presented) token
    · rintro ⟨http, _⟩
      cases http
  | http =>
    rw [if_neg nofun, read_connection_bare plain, read]
    by_cases bracketed : b.host.Bracketed
    · rw [if_pos bracketed]
      constructor
      · rintro ⟨s, opened, _⟩
        cases opened
      · rintro ⟨_, bare, _⟩
        exact absurd bracketed bare
    · rw [if_neg bracketed]
      have named : b.host = .name b.host.text := by
        cases host : b.host with
        | name text => rfl
        | ipv6 text => exact absurd (host ▸ trivial) bracketed
      have lowered : (Host.name (lowerHost b.host.text)).lower = b.host.lower := by
        rw [lower_lower_host, ← named]
      cases port : b.port with
      | none => simp [Faithful, Connection.session, BaseUrl.restPort, port, scheme, connectPort,
          Scheme.defaultPort]
      | some p => simp [Faithful, Connection.session, BaseUrl.restPort, port, scheme, bracketed,
          lowered]

end

/- The Rust client. -/

theorem https_written (b : BaseUrl) :
    "https".toList.isPrefixOf b.text = true ↔ b.spelling = "https".toList := by
  have length : b.spelling.length = b.scheme.text.length := by
    rw [← b.spelled, lowerCase, List.length_map]
  rw [List.isPrefixOf_iff_prefix, List.prefix_iff_eq_take, b.text_layout]
  cases scheme : b.scheme with
  | https =>
    rw [scheme] at length
    have five : "https".toList.length = b.spelling.length := length.symm
    rw [five, List.take_left]
    exact eq_comm
  | http =>
    rw [scheme] at length
    have five : "https".toList.length = b.spelling.length + 1 := by rw [length]; rfl
    rw [five, List.take_length_add_append]
    constructor
    · intro same
      have last := congrArg List.getLast? same
      simp at last
    · intro same
      rw [same] at length
      cases length

theorem kept_port_iff (b : BaseUrl) :
    b.keptPort.getD connectPort = b.restPort ↔
      ∃ p, b.port = some p ∧ p ≠ b.scheme.defaultPort := by
  have other : connectPort ≠ b.scheme.defaultPort := by cases b.scheme <;> decide
  unfold BaseUrl.keptPort BaseUrl.restPort
  cases b.port with
  | none => simp [other]
  | some p => by_cases same : p = b.scheme.defaultPort <;> simp [same, other]

theorem rust_tls_iff (b : BaseUrl) :
    (b.spelling = "https".toList ↔ b.scheme = .https) ↔
      (b.scheme = .https → b.spelling = "https".toList) := by
  have written : b.spelling = "https".toList → b.scheme = .https := by
    intro same
    have spelled := b.spelled
    rw [same] at spelled
    cases scheme : b.scheme with
    | https => rfl
    | http =>
      rw [scheme] at spelled
      exact absurd spelled (by decide)
  exact ⟨fun agree => agree.mpr, fun secured => ⟨written, secured⟩⟩

section
variable {parse : List Char → Option Url} {normal : Host → Host} {b : BaseUrl}
  (documented : Documented parse normal b)
include documented

theorem rust_session (token : List Char) :
    RustClient.createSession parse b.text token =
      (readConnection (connectScheme ++ (((normal b.host).written ++ portText b.keptPort) ++
        '/' :: (";token=".toList ++ (token ++
          if b.spelling = "https".toList then ";use_ssl=true".toList else []))))).map
        (·.session []) := by
  unfold RustClient.createSession
  simp only [documented.2, Option.bind_some, https_written]
  simp only [connectScheme, List.append_assoc]
  rfl

theorem rust_connected {token : List Char} (plain : ';' ∉ token) :
    RustClient.createSession parse b.text token =
      some
        { host := normal b.host
          port := b.keptPort.getD connectPort
          tls := b.spelling = "https".toList
          bearers := [token] } := by
  have slash := not_mem_authority (d := '/') documented.1 b.keptPort (by decide) (by decide)
    (by decide)
  rw [rust_session documented, read_connection_params slash, read_written documented.1]
  by_cases secured : b.spelling = "https".toList
  · have keys : ∀ k ∈ ["token".toList, "use_ssl".toList], ';' ∉ k ∧ '=' ∉ k := by decide
    have values : ∀ v ∈ [token, "true".toList], ';' ∉ v :=
      List.forall_mem_cons.mpr ⟨plain, by decide⟩
    have params := read_write_params
      [("token".toList, token), ("use_ssl".toList, "true".toList)] keys values
    have layout : ";token=".toList ++ (token ++ ";use_ssl=true".toList) =
        writeParams [("token".toList, token), ("use_ssl".toList, "true".toList)] := rfl
    rw [if_pos secured, layout, params, decide_eq_true secured]
    rfl
  · have keys : ∀ k ∈ ["token".toList], ';' ∉ k ∧ '=' ∉ k := by decide
    have values : ∀ v ∈ [token], ';' ∉ v := List.forall_mem_singleton.mpr plain
    have params := read_write_params [("token".toList, token)] keys values
    have layout : ";token=".toList ++ (token ++ []) = writeParams [("token".toList, token)] := rfl
    rw [if_neg secured, layout, params, decide_eq_false secured]
    rfl

theorem rust_faithful_iff (token : List Char) :
    Faithful b (normal b.host) token (RustClient.createSession parse b.text token) ↔
      (∃ p, b.port = some p ∧ p ≠ b.scheme.defaultPort) ∧
        (b.scheme = .https → b.spelling = "https".toList) ∧ ';' ∉ token := by
  rw [← kept_port_iff, ← rust_tls_iff]
  constructor
  · rintro ⟨s, opened, presented, tls, _, port⟩
    have plain : ';' ∉ token := by
      rw [rust_session documented] at opened
      obtain ⟨connection, connected, rfl⟩ := Option.map_eq_some_iff.mp opened
      simp only [Connection.session, List.append_nil] at presented
      exact connection_plain connected (Option.toList_eq_singleton_iff.mp presented)
    rw [rust_connected documented plain] at opened
    cases opened
    exact ⟨port, decide_eq_true_iff.symm.trans tls, plain⟩
  · rintro ⟨port, tls, plain⟩
    exact ⟨_, rust_connected documented plain, rfl, decide_eq_true_iff.trans tls, rfl, port⟩

end

/- Both. -/

/-- The Python client keeps to its configuration over http alone, at a named host and an
explicit port, and the Rust client at an explicit port that is not the default one, with the
scheme in lower case where it is https and a token without semicolons. -/
theorem clients_faithful_iff {parse : List Char → Option Url} {normal : Host → Host}
    (b : BaseUrl) (documented : Documented parse normal b) (token : List Char) :
    (Faithful b b.host token (PythonClient.createSession b.text token) ↔
      b.scheme = .http ∧ ¬ b.host.Bracketed ∧ b.port ≠ none) ∧
    (Faithful b (normal b.host) token (RustClient.createSession parse b.text token) ↔
      (∃ p, b.port = some p ∧ p ≠ b.scheme.defaultPort) ∧
        (b.scheme = .https → b.spelling = "https".toList) ∧ ';' ∉ token) :=
  ⟨python_faithful_iff b token, rust_faithful_iff documented token⟩

/- The URL of the clients' tests, and one of a server behind TLS. -/

def localUrl : BaseUrl where
  scheme := .http
  spelling := "http".toList
  spelled := by decide
  userInfo := none
  userInfoPlain := nofun
  host := .name "localhost".toList
  valid := by decide
  port := some 8100
  bounded := by simp
  path := []
  rooted := nofun
  pathPlain := nofun

def secureUrl : BaseUrl where
  scheme := .https
  spelling := "https".toList
  spelled := by decide
  userInfo := none
  userInfoPlain := nofun
  host := .name "spark.example".toList
  valid := by decide
  port := some 8443
  bounded := by simp
  path := []
  rooted := nofun
  pathPlain := nofun

def parseLocal (text : List Char) : Option Url :=
  if text = "http://localhost:8100".toList then some ⟨some "localhost".toList, some 8100⟩
  else none

theorem local_clients_faithful :
    Faithful localUrl localUrl.host "abcd".toList
      (PythonClient.createSession localUrl.text "abcd".toList) ∧
    Faithful localUrl localUrl.host "abcd".toList
      (RustClient.createSession parseLocal localUrl.text "abcd".toList) := by
  have documented : Documented parseLocal id localUrl := ⟨by decide, by decide⟩
  obtain ⟨python, rust⟩ := clients_faithful_iff localUrl documented "abcd".toList
  constructor
  · exact python.mpr (by decide)
  · exact rust.mpr ⟨⟨8100, rfl, by decide⟩, nofun, by decide⟩

theorem dollar_token_presented :
    (PythonClient.createSession secureUrl.text "abcd".toList).map (·.bearers) =
      some ["$abcd".toList] ∧
    ¬ Faithful secureUrl secureUrl.host "abcd".toList
      (PythonClient.createSession secureUrl.text "abcd".toList) := by
  constructor
  · decide
  · intro faithful
    cases ((python_faithful_iff secureUrl "abcd".toList).mp faithful).1

end SparkPlug
