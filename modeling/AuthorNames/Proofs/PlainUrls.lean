import AuthorNames.Proofs.PlainNames
import AuthorNames.Web.Fetch

/-! A URL shows visible ASCII and spaces only. Whatever else a part might hold is
escaped, and a host is a name or a number. This is so of every URL that is read,
and stays so behind an identifier and behind the redirects of a fetch, so no
fault of a fetch takes more than one line to tell. -/
namespace AuthorNames.PlainUrls
open AuthorNames.Url AuthorNames.PlainNames AuthorNames.ReadPaths AuthorNames.PercentEscapes
open AuthorNames.AcceptedSettings (context_base_accepted)
open AuthorNames.Unicode (splitWhere)

/-- What stands between the slashes and the path is plain. -/
structure PlainAuthority (a : Authority) : Prop where
  username : Plain a.username.toList
  password : Plain a.password.toList
  host : Plain a.host.text

/-- The path is plain, in one or by its segments. -/
def PlainPath : Path → Prop
  | .whole text => Plain text.toList
  | .segments _ list => Throughout IsPlain (list.map String.toList)

/-- Each part of the URL is plain. -/
structure PlainParts (url : Url) : Prop where
  scheme : Plain url.scheme.toList
  authority : ∀ a ∈ url.authority, PlainAuthority a
  path : PlainPath url.path
  query : ∀ text ∈ url.query, Plain text.toList
  fragment : ∀ text ∈ url.fragment, Plain text.toList

variable {scheme : String} {text : List Char} {list : List (List Char)} {c : Char} {url base : Url} {host : Host}

/-! Escapes. -/

theorem controls_of_fragment (kept : Percent.fragment c = false) : Percent.controls c = false := by
  simp only [Percent.fragment, Bool.or_eq_false_iff] at kept
  simp only [kept]

theorem controls_of_path (kept : Percent.path c = false) : Percent.controls c = false := by
  simp only [Percent.path, Bool.or_eq_false_iff] at kept
  exact controls_of_fragment (by simp only [kept])

theorem controls_of_credentials (kept : Percent.credentials c = false) : Percent.controls c = false := by
  simp only [Percent.credentials, Bool.or_eq_false_iff] at kept
  exact controls_of_path (by simp only [kept])

theorem controls_of_segment {isSpecial : Bool} (kept : Percent.segment isSpecial c = false) :
    Percent.controls c = false := by
  simp only [Percent.segment, Bool.or_eq_false_iff] at kept
  exact controls_of_path (by simp only [kept])

theorem controls_of_query {isSpecial : Bool} (kept : Percent.query isSpecial c = false) :
    Percent.controls c = false := by
  simp only [Percent.query, Bool.or_eq_false_iff] at kept
  simp only [kept]

/-- What is written with escapes is plain if they cover the controls. -/
theorem plain_percent {set : Percent.EscapeSet} (covers : ∀ {c}, set c = false → Percent.controls c = false)
    (text : List Char) : Plain (Percent.encode set text) := by
  intro c member
  rcases mem_encode member with ⟨-, kept⟩ | rfl | digit
  · have visible := covers kept
    simp only [Percent.controls, Bool.or_eq_false_iff, decide_eq_false_iff_not] at visible
    exact ⟨by omega, by omega⟩
  · decide
  · have visible := (isDigit_plain digit).1
    exact ⟨by omega, by omega⟩

theorem throughout_percent {set : Percent.EscapeSet} (covers : ∀ {c}, set c = false → Percent.controls c = false)
    (list : List (List Char)) : Throughout IsPlain (list.map (Percent.encode set)) := by
  intro segment member
  obtain ⟨text, -, rfl⟩ := List.mem_map.mp member
  exact plain_percent covers text

/-! Hosts. -/

theorem plain_digitChar : ∀ d < 16, IsPlain d.digitChar := by
  decide

theorem plain_toDigits {radix : Nat} (least : 1 < radix) (most : radix ≤ 16) (n : Nat) :
    Plain (Nat.toDigits radix n) := by
  induction n using Nat.strongRecOn with
  | ind n ih =>
    rw [Nat.toDigits_eq_if least]
    split
    · exact plain_cons (plain_digitChar n (by omega)) plain_nil
    · have last := Nat.mod_lt n (show 0 < radix by omega)
      exact plain_append (ih _ (Nat.div_lt_self (by omega) least))
        (plain_cons (plain_digitChar _ (by omega)) plain_nil)

theorem plain_decimal (n : Nat) : Plain (Host.decimal n) :=
  plain_toDigits (by decide) (by decide) n

theorem plain_intersperse (each : ∀ text ∈ list, Plain text) : Plain (list.intersperse [':']).flatten := by
  have colon : Plain [':'] := by decide
  fun_induction List.intersperse [':'] list with
  | case1 => exact plain_nil
  | case2 text => simpa using each
  | case3 text rest more ih =>
    obtain ⟨here, others⟩ := List.forall_mem_cons.mp each
    simp only [List.flatten_cons]
    exact plain_append here (plain_append colon (ih others))

theorem plain_pieceText (pieces : List Nat) : Plain (Host.pieceText pieces) := by
  apply plain_intersperse
  intro digits member
  obtain ⟨piece, -, rfl⟩ := List.mem_map.mp member
  exact plain_toDigits (by decide) (by decide) piece

theorem plain_ipv6 (pieces : List Nat) : Plain (Host.ipv6 pieces).text := by
  have address : Plain (Host.ipv6Text pieces) := by
    unfold Host.ipv6Text
    split
    split
    · exact plain_pieceText pieces
    · exact plain_append (plain_append (plain_pieceText _) (by decide)) (plain_pieceText _)
  exact plain_append (plain_append (by decide) address) (by decide)

theorem plain_none : Plain Host.none.text :=
  plain_nil

theorem plain_ipv4 (address : Nat) : Plain (Host.ipv4 address).text := by
  have dot : Plain ['.'] := by decide
  have number := plain_decimal
  exact plain_append (plain_append (plain_append (plain_append (plain_append (plain_append (number _) dot) (number _))
    dot) (number _)) dot) (number _)

theorem plain_parseBracketed (text : List Char) :
    Makes (fun host : Host => Plain host.text) (Host.parseBracketed text) := by
  unfold Host.parseBracketed
  apply makes_ite
  · split
    · exact makes_ok (plain_ipv6 _)
    · exact makes_error _
  · exact makes_error _

/-- A host that is read is plain. -/
theorem plain_parseHost (text : List Char) : Makes (fun host : Host => Plain host.text) (Host.parse text) := by
  unfold Host.parse
  apply makes_ite
  · exact plain_parseBracketed text
  · split
    · exact makes_error _
    · rename_i ascii spelled
      apply makes_ite
      · exact makes_error _
      · apply makes_ite
        · split
          · exact makes_ok (plain_ipv4 _)
          · exact makes_error _
        · apply makes_ok
          rw [Host.text, String.toList_ofList]
          exact plain_asciiName spelled

theorem plain_parseOpaque (text : List Char) :
    Makes (fun host : Host => Plain host.text) (Host.parseOpaque text) := by
  unfold Host.parseOpaque
  apply makes_ite
  · exact plain_parseBracketed text
  · apply makes_ite
    · exact makes_error _
    · apply makes_ite
      · exact makes_ok plain_none
      · apply makes_ok
        rw [Host.text, String.toList_ofList]
        exact plain_percent id text

/-! Parts. -/

/-- A letter, figure or sign of a scheme in lower case. -/
theorem plain_toLower (letter : isSchemeChar c = true) : IsPlain c.toLower := by
  have small : c.toNat < 128 := by
    have ranges : isSchemeChar c = ((decide (c.val ≥ 'A'.val ∧ c.val ≤ 'Z'.val) ||
        (c.val ≥ 'a'.val && c.val ≤ 'z'.val) || (c.val ≥ '0'.val && c.val ≤ '9'.val)) ||
        c == '+' || c == '-' || c == '.') := rfl
    simp only [ranges, Bool.or_eq_true, Bool.and_eq_true, decide_eq_true_eq, beq_iff_eq, ge_iff_le,
      UInt32.le_iff_toNat_le] at letter
    have code : c.toNat = c.val.toNat := rfl
    rcases letter with (((((h | h) | h) | rfl) | rfl) | rfl)
    · have last : 'Z'.val.toNat = 90 := rfl
      omega
    · have last : 'z'.val.toNat = 122 := rfl
      omega
    · have last : '9'.val.toNat = 57 := rfl
      omega
    all_goals decide
  have all : ∀ n < 128, isSchemeChar (Char.ofNat n) = true → IsPlain (Char.ofNat n).toLower := by decide +kernel
  have checked := all c.toNat small
  rw [Char.ofNat_toNat] at checked
  exact checked letter

theorem plain_splitScheme {rest : List Char} (split : splitScheme? text = some (scheme, rest)) :
    Plain scheme.toList := by
  unfold splitScheme? at split
  split at split
  · cases split
  · split at split
    · split at split
      · cases split
        rw [String.toList_ofList]
        intro c member
        obtain ⟨letter, among, rfl⟩ := List.mem_map.mp member
        exact plain_toLower (List.mem_takeWhile_imp among)
      · cases split
    · cases split

theorem plain_parseAuthority (scheme : String) (text : List Char) :
    Makes (fun read : Authority × List Char => PlainAuthority read.1) (parseAuthority scheme text) := by
  have written (part : List Char) : Plain (String.ofList (Percent.encode Percent.credentials part)).toList := by
    rw [String.toList_ofList]
    exact plain_percent controls_of_credentials part
  unfold parseAuthority
  dsimp only
  -- The host is read in one way or another, and what follows only adds a port.
  refine makes_unless (makes_unless ?_)
  refine makes_ite (makes_bind (plain_parseHost _) fun host plain => ?_)
    (makes_bind (plain_parseOpaque _) fun host plain => ?_)
  all_goals
    have made (port : Option Nat) (userinfo : List Char) :
        PlainAuthority ⟨(parseCredentials userinfo).1, (parseCredentials userinfo).2, host, port⟩ :=
      ⟨written _, written _, plain⟩
    refine makes_unless ?_
    split <;> exact makes_bind (makes_any _) fun _ _ => makes_unless (makes_ok (made _ _))

theorem plain_parseTail (kind : Kind) (text : List Char) :
    (∀ query ∈ (parseTail kind text).1, Plain query.toList) ∧
      ∀ fragment ∈ (parseTail kind text).2, Plain fragment.toList := by
  unfold parseTail
  dsimp only
  constructor
  · split
    · rintro _ ⟨⟩
      rw [String.toList_ofList]
      exact plain_percent controls_of_query _
    · rintro _ ⟨⟩
  · split
    · rintro _ ⟨⟩
      rw [String.toList_ofList]
      exact plain_percent controls_of_fragment _
    · rintro _ ⟨⟩

theorem plain_readSegments (kind : Kind) (text : List Char) : Throughout IsPlain (readSegments kind text) :=
  throughout_readSegments (by decide) text (throughout_percent controls_of_path _)

theorem plainPath_segments {isGuarded : Bool} (plain : Throughout IsPlain list) :
    PlainPath (.segments isGuarded (list.map String.ofList)) := by
  rw [PlainPath, List.map_map]
  simpa only [Function.comp_def, String.toList_ofList, List.map_id'] using plain

/-! URLs that are read. -/

theorem plain_behindAuthority {authority : Authority} (plainScheme : Plain scheme.toList)
    (plain : PlainAuthority authority) (text : List Char) : PlainParts (behindAuthority scheme authority text) := by
  obtain ⟨query, fragment⟩ := plain_parseTail (Kind.ofScheme scheme) (splitPath (Kind.ofScheme scheme) text).2
  refine ⟨plainScheme, ?_, plainPath_segments ?_, query, fragment⟩
  · rintro _ ⟨⟩
    exact plain
  · split
    · intro segment member
      cases member
    · exact plain_readSegments _ _

theorem plain_parseWithAuthority (plainScheme : Plain scheme.toList) (text : List Char) :
    Makes PlainParts (parseWithAuthority scheme text) :=
  makes_bind (plain_parseAuthority scheme text) fun _ plain => makes_ok (plain_behindAuthority plainScheme plain _)

theorem plain_fileUrl (plain : Plain host.text) (text : List Char) : PlainParts (fileUrl host text) := by
  obtain ⟨query, fragment⟩ := plain_parseTail .file (text.dropWhile (!endsPath ·))
  refine ⟨?_, ?_, plainPath_segments (plain_readSegments .file _), query, fragment⟩
  · exact show Plain "file".toList by decide
  · rintro _ ⟨⟩
    refine ⟨plain_nil, plain_nil, ?_⟩
    dsimp only
    split
    · exact plain_nil
    · exact plain

theorem plain_parseFile (text : List Char) : Makes PlainParts (parseFile text) := by
  have hostless (rest : List Char) : Makes PlainParts (.ok (fileUrl .none rest)) :=
    makes_ok (plain_fileUrl plain_none rest)
  have hosted (read : Except Fault Host) (plain : Makes (fun host : Host => Plain host.text) read)
      (rest behind : List Char) :
      Makes PlainParts (do
        let host ← read
        if host = .none ∨ host = .name "localhost" then return fileUrl .none rest
        return fileUrl host behind) :=
    makes_bind plain fun host plain => makes_ite (hostless _) (makes_ok (plain_fileUrl plain _))
  unfold parseFile
  dsimp only
  apply makes_ite
  · apply makes_ite
    · apply makes_ite
      · exact hostless _
      · exact makes_ite (hosted _ (makes_ok plain_none) _ _) (hosted _ (plain_parseHost _) _ _)
    · exact hostless _
  · exact hostless _

theorem plain_parseOther (plainScheme : Plain scheme.toList) (text : List Char) :
    Makes PlainParts (parseOther scheme text) := by
  have none {a : Authority} (member : a ∈ (none : Option Authority)) : PlainAuthority a := by cases member
  unfold parseOther
  split
  · exact plain_parseWithAuthority plainScheme _
  · rename_i rest _
    obtain ⟨query, fragment⟩ := plain_parseTail .other (rest.dropWhile (!endsPath ·))
    exact makes_ok ⟨plainScheme, fun _ => none, plainPath_segments (plain_readSegments .other _), query, fragment⟩
  · obtain ⟨query, fragment⟩ := plain_parseTail .other (text.dropWhile (!endsPath ·))
    refine makes_ok ⟨plainScheme, fun _ => none, ?_, query, fragment⟩
    rw [PlainPath, String.toList_ofList]
    exact plain_percent id _

/-- **A URL that is read has plain parts.** -/
theorem plain_parse (source : String) : Makes PlainParts (Url.parse source) := by
  unfold Url.parse
  split
  · exact makes_error _
  · rename_i scheme rest split
    have plainScheme := plain_splitScheme split
    split
    · exact plain_parseWithAuthority plainScheme _
    · exact plain_parseFile _
    · exact plain_parseOther plainScheme _

/-- A base URL that was accepted has plain parts. -/
theorem plain_base {files : Files} {request : CommandLine.Request} {ctx : Context}
    (accepted : Context.ofRequest files request = .ok ctx) : PlainParts ctx.base := by
  obtain ⟨⟨source, read⟩, -⟩ := context_base_accepted accepted
  exact plain_parse source ctx.base read

/-! URLs made of others. -/

theorem plain_withSegment {identifier : String} (plain : PlainParts base)
    (added : base.withSegment? identifier = some url) : PlainParts url := by
  have path := plain.path
  rw [withSegment?] at added
  split at added
  · cases added
  · rename_i isGuarded list same
    rw [same] at path
    cases added
    refine ⟨plain.scheme, plain.authority, plainPath_segments ?_, plain.query, plain.fragment⟩
    exact throughout_push (by decide) path (throughout_percent controls_of_segment [_])

theorem plain_withoutCredentials (plain : PlainParts url) : PlainParts url.withoutCredentials := by
  refine ⟨plain.scheme, ?_, plain.path, plain.query, plain.fragment⟩
  intro a member
  obtain ⟨b, whole, rfl⟩ := Option.map_eq_some_iff.mp member
  exact ⟨plain_nil, plain_nil, (plain.authority b whole).host⟩

theorem plain_referredSegments (plain : PlainPath base.path) (path : List Char) :
    PlainPath (.segments false (referredSegments base path)) := by
  apply plainPath_segments
  refine throughout_walk (by decide) ?_ (throughout_percent controls_of_path _)
  split
  · intro segment member
    cases member
  · rename_i same
    rw [same] at plain
    exact throughout_sublist (List.dropLast_sublist _) plain

theorem plain_joinRelative (plain : PlainParts base) (text : List Char) :
    Makes PlainParts (joinRelative base text) := by
  obtain ⟨query, fragment⟩ := plain_parseTail .web (text.dropWhile (!endsPath ·))
  unfold joinRelative
  dsimp only
  split
  · refine makes_ok ⟨plain.scheme, plain.authority, plain.path, ?_, fragment⟩
    dsimp only
    split
    · exact query
    · exact plain.query
  · apply makes_ite
    · exact makes_ok ⟨plain.scheme, plain.authority, plain_referredSegments plain.path _, query, fragment⟩
    · apply makes_ite
      · exact plain_parseWithAuthority plain.scheme _
      · exact makes_ok ⟨plain.scheme, plain.authority, plainPath_segments (plain_readSegments .web _), query, fragment⟩

/-- What a reference leads to from a URL with plain parts has plain parts. -/
theorem plain_join (plain : PlainParts base) (reference : String) : Makes PlainParts (base.join reference) := by
  unfold Url.join
  dsimp only
  split
  · exact plain_joinRelative plain _
  · exact makes_ite (plain_joinRelative plain _) (plain_parse reference)

/-! The text. -/

theorem plain_behind {sign : Char} (visible : IsPlain sign) {part : Option String}
    (plain : ∀ text ∈ part, Plain text.toList) : Plain (behind sign part) := by
  cases part with
  | none => exact plain_nil
  | some text => exact plain_cons visible (plain text rfl)

theorem plain_authority {a : Authority} (plain : PlainAuthority a) : Plain a.text := by
  have credentials : Plain a.credentials := by
    have password : Plain (if a.password.isEmpty then [] else ':' :: a.password.toList) := by
      split
      · exact plain_nil
      · exact plain_cons (by decide) plain.password
    unfold Authority.credentials
    split
    · exact plain_nil
    · exact plain_append (plain_append plain.username password) (by decide)
  refine plain_append (plain_append (by decide) credentials) (plain_append plain.host ?_)
  split
  · exact plain_nil
  · exact plain_cons (by decide) (plain_decimal _)

theorem plain_path {path : Path} (plain : PlainPath path) : Plain path.text := by
  cases path with
  | whole text => exact plain
  | segments isGuarded list =>
    intro c member
    obtain ⟨segment, among, written⟩ := List.mem_flatMap.mp member
    rcases List.mem_cons.mp written with rfl | within
    · decide
    · exact plain _ (List.mem_map_of_mem among) c within

/-- **The text of a URL with plain parts is plain.** -/
theorem plain_text (plain : PlainParts url) : Plain url.text.toList := by
  have authority : Plain ((url.authority.map Authority.text).getD []) := by
    cases whole : url.authority with
    | none => exact plain_nil
    | some a => exact plain_authority (plain.authority a whole)
  have guard : Plain url.path.guard := by
    unfold Path.guard
    split
    · decide
    · exact plain_nil
  rw [Url.text, String.toList_ofList]
  exact plain_append (plain_append (plain_append (plain_append (plain_append (plain_append plain.scheme
    (by decide)) authority) guard) (plain_path plain.path))
    (plain_behind (by decide) plain.query)) (plain_behind (by decide) plain.fragment)

theorem plain_requestText (plain : PlainParts url) : Plain url.requestText.toList := by
  refine plain_text ⟨plain.scheme, plain.authority, plain.path, plain.query, ?_⟩
  rintro _ ⟨⟩

/-! Faults. -/

/-- The URL that a fault names. -/
def namedUrl? : FetchFault → Option String
  | .unsendable url | .noReply url | .tooManyRedirects url | .badStatus _ _ url => some url
  | .brokenBody => none

variable {web : Web} {first : Url} {redirects : Nat} {fault : FetchFault}

theorem plain_shownReason (reason : String) : Plain (shownReason reason).toList := by
  have each : ∀ n < 128, Plain (escapeReason (Char.ofNat n)) := by decide +kernel
  unfold shownReason
  split
  · rename_i ascii
    rw [String.toList_ofList]
    intro c member
    obtain ⟨letter, among, written⟩ := List.mem_flatMap.mp member
    have small : letter.toNat < 0x80 := by simpa using List.all_eq_true.mp ascii letter among
    have plain := each letter.toNat small
    rw [Char.ofNat_toNat] at plain
    exact plain c written
  · exact plain_nil

theorem plain_toString (n : Nat) : Plain (toString n).toList := by
  have digits : toString n = String.ofList (Nat.toDigits 10 n) := rfl
  rw [digits, String.toList_ofList]
  exact plain_decimal n

/-- What is said of a fault is plain if the URL is that it names. -/
theorem plain_message (plain : ∀ url ∈ namedUrl? fault, Plain url.toList) : Plain fault.message.toList := by
  have around {url front back : String} (plain : Plain url.toList) (before : Plain front.toList)
      (behind : Plain back.toList) : Plain (front ++ url ++ back).toList := by
    rw [String.toList_append, String.toList_append]
    exact plain_append (plain_append before plain) behind
  cases fault with
  | unsendable url => exact around (plain url rfl) (by decide) (by decide)
  | noReply url => exact around (plain url rfl) (by decide) (by decide)
  | tooManyRedirects url => exact around (plain url rfl) (by decide) (by decide)
  | badStatus status reason url =>
    refine around (plain url rfl) ?_ (by decide)
    have side : Plain (if status < 500 then "client" else "server").toList := by split <;> decide
    simp only [String.toList_append]
    exact plain_append (plain_append (plain_append (plain_append (plain_append (plain_append (by decide) side)
      (by decide)) (plain_toString status)) (by decide)) (plain_shownReason reason)) (by decide)
  | brokenBody => exact show Plain "error decoding response body".toList by decide

/-- A page leads to a URL with plain parts from one with plain parts. -/
theorem plain_target {page : Page} {target : Url} (plain : PlainParts url) (leads : page.target? url = some target) :
    PlainParts target := by
  unfold Page.target? at leads
  obtain ⟨-, -, leads⟩ := Option.bind_eq_some_iff.mp leads
  obtain ⟨location, -, leads⟩ := Option.bind_eq_some_iff.mp leads
  cases joined : url.join location with
  | error fault =>
    rw [joined] at leads
    cases leads
  | ok made =>
    rw [joined] at leads
    cases leads
    exact plain_join plain location target joined

theorem namedUrl?_of_text {page : Page} (failed : page.text url = .error fault) :
    ∀ text ∈ namedUrl? fault, text = url.requestText := by
  unfold Page.text at failed
  split at failed
  · cases failed
    rintro _ ⟨⟩
    rfl
  · split at failed
    · cases failed
    · split at failed
      · cases failed
        rintro _ ⟨⟩
      · cases failed

/-- A fetch that fails names one of the URLs at hand, or fails for what the first
reply leads to. -/
theorem fault_cases (failed : (web.follow first redirects url).outcome = .error fault) :
    (∀ text ∈ namedUrl? fault, text = url.text ∨ text = first.text ∨ text = url.requestText) ∨
      ∃ page target fewer, Page.target? page url = some target ∧ redirects = fewer + 1 ∧
        (web.follow first fewer target).outcome = .error fault := by
  rw [Web.follow.eq_def] at failed
  cases sendable : url.isSendable with
  | false =>
    simp only [sendable, Bool.not_false, ↓reduceIte] at failed
    cases failed
    left
    rintro _ ⟨⟩
    exact .inl rfl
  | true =>
    simp only [sendable, Bool.not_true, Bool.false_eq_true, ↓reduceIte] at failed
    rcases reply : web.reply? url with _ | _ | page
    · simp only [reply] at failed
      cases failed
      left
      rintro _ ⟨⟩
      exact .inr (.inl rfl)
    · simp only [reply] at failed
      cases failed
      left
      rintro _ ⟨⟩
      exact .inr (.inl rfl)
    · simp only [reply] at failed
      cases leads : page.target? url with
      | none =>
        simp only [leads] at failed
        exact .inl fun text member => .inr (.inr (namedUrl?_of_text failed text member))
      | some target =>
        simp only [leads] at failed
        cases redirects with
        | zero =>
          cases failed
          left
          rintro _ ⟨⟩
          exact .inr (.inr rfl)
        | succ fewer => exact .inr ⟨page, target, fewer, leads, rfl, failed⟩

/-- **What is said of a fetch that failed is plain.** -/
theorem plain_fault (plainFirst : PlainParts first) (plain : PlainParts url)
    (failed : (web.follow first redirects url).outcome = .error fault) : Plain fault.message.toList := by
  have atHand {url : Url} (plain : PlainParts url)
      (named : ∀ text ∈ namedUrl? fault, text = url.text ∨ text = first.text ∨ text = url.requestText) :
      Plain fault.message.toList := by
    refine plain_message fun text member => ?_
    rcases named text member with rfl | rfl | rfl
    · exact plain_text plain
    · exact plain_text plainFirst
    · exact plain_requestText plain
  induction redirects generalizing url with
  | zero =>
    rcases fault_cases failed with named | ⟨_, _, _, -, more, -⟩
    · exact atHand plain named
    · cases more
  | succ redirects ih =>
    rcases fault_cases failed with named | ⟨_, target, _, leads, more, failed⟩
    · exact atHand plain named
    · cases more
      exact ih (plain_target plain leads) failed

theorem plain_fetch (plain : PlainParts url) (failed : (web.fetch url).outcome = .error fault) :
    Plain fault.message.toList :=
  plain_fault (plain_withoutCredentials plain) (plain_withoutCredentials plain) failed

end AuthorNames.PlainUrls
