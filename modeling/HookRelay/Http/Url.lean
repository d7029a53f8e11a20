import HookRelay.Http.Host

/-!
URLs: read with all the leniency that web clients have, resolved against another one, and written in
normal form.
-/
namespace HookRelay

structure Credentials where
  name : List Char
  password : Option (List Char)
deriving DecidableEq, Repr

structure Url where
  scheme : List Char
  credentials : Option Credentials
  host : Option (List Char)
  port : Option Nat
  path : List Char
  query : Option (List Char)
  fragment : Option (List Char)
deriving DecidableEq, Repr

def Credentials.text (credentials : Credentials) : List Char :=
  credentials.name ++ (credentials.password.map (':' :: ·)).getD [] ++ ['@']

namespace Url

/-- What stands between the scheme and the path. Two slashes that a path starts with are not taken
for those before a host. -/
private def authorityText (url : Url) : List Char :=
  match url.host with
  | none => if url.path.take 2 = ['/', '/'] then ['/', '.'] else []
  | some host =>
    ['/', '/'] ++ (url.credentials.map Credentials.text).getD [] ++ host ++
      (url.port.map fun port => ':' :: Nat.toDigits 10 port).getD []

def text (url : Url) : String :=
  String.ofList <|
    url.scheme ++ [':'] ++ url.authorityText ++ url.path ++
      (url.query.map ('?' :: ·)).getD [] ++ (url.fragment.map ('#' :: ·)).getD []

/-- Whether the URL names a host to connect to. -/
def hasHost (url : Url) : Bool := url.host.any fun host => !host.isEmpty

def isWeb (url : Url) : Bool := url.scheme = "http".toList || url.scheme = "https".toList

def greatestUri : Nat := 65534

def isUriChar (char : Char) : Bool :=
  char.isAlphanum || "!#$&'()*+,-./:;=?@[]_~".toList.contains char

/-- Whether the text of a URL can stand for the target of a request: it is not too long, and what is
taken for its host is made of the characters of URIs. Without slashes before a host that is what
follows the last at sign in all of the text. -/
def isRequestUri (url : Url) : Bool :=
  url.text.length ≤ greatestUri && match url.host with
    | some host => !host.isEmpty && host.all isUriChar
    | none =>
      let text := url.text.toList
      let host := (text.reverse.takeWhile (· ≠ '@')).reverse
      !host.isEmpty && host.all isUriChar && host.count ':' ≤ 1 &&
        text.all fun char => (isUriChar char || char = '%') && !"/?#[]".toList.contains char

private def plainText? (text : List Char) : Option (List Char) :=
  Utf8.decode? (Percent.decode text)

/-- The URL without the credentials, which a request carries elsewhere. Those that are not text are
not taken out. -/
def withoutCredentials (url : Url) : Url :=
  match url.credentials with
  | none => url
  | some ⟨name, password⟩ =>
    match plainText? name, password.bind plainText? with
    | none, _ => url
    | some [], none => url
    | some _, _ => { url with credentials := none }

def defaultPort? (scheme : List Char) : Option Nat :=
  if scheme = "http".toList || scheme = "ws".toList then some 80
  else if scheme = "https".toList || scheme = "wss".toList then some 443
  else if scheme = "ftp".toList then some 21
  else none

def isFile (scheme : List Char) : Bool := scheme = "file".toList

/-- In the schemes of the web and of files a backslash is as good as a slash, and hosts are domains
or addresses. -/
def isSpecial (scheme : List Char) : Bool := (defaultPort? scheme).isSome || isFile scheme

private def isSlash (special : Bool) (char : Char) : Bool := char = '/' || (special && char = '\\')

private def inFragment (char : Char) : Bool := " \"<>".toList.contains char || char.toNat = 0x60
private def inPath (char : Char) : Bool :=
  inFragment char || char = '#' || char = '?' || char = '\x7b' || char = '\x7d'
private def inQuery (special : Bool) (char : Char) : Bool :=
  " \"#<>".toList.contains char || (special && char = '\'')
private def inCredentials (char : Char) : Bool :=
  inPath char || "/:;=@[\\]^|".toList.contains char

/-- Blanks and controls around the text and line breaks inside it do not count. -/
private def strip (text : List Char) : List Char :=
  let isEdge (char : Char) := decide (char.toNat ≤ 0x20)
  ((text.dropWhile isEdge).reverse.dropWhile isEdge).reverse.filter fun char =>
    !(char = '\t' || char = '\n' || char = '\x0d')

/-- The scheme in lower case and what follows its colon. -/
private def scheme? (text : List Char) : Option (List Char × List Char) :=
  let name := text.takeWhile fun char =>
    char.isAlphanum || char = '+' || char = '-' || char = '.'
  match name.head?, text.drop name.length with
  | some first, ':' :: rest => if first.isAlpha then some (Text.lowerAscii name, rest) else none
  | _, _ => none

private def isDotSegment (segment : List Char) : Bool :=
  segment = ['.'] || Text.lowerAscii segment = "%2e".toList

private def isDotDotSegment (segment : List Char) : Bool :=
  ["..", ".%2e", "%2e.", "%2e%2e"].any fun form => Text.lowerAscii segment = form.toList

private def isDrive (text : List Char) : Bool :=
  match text with
  | [letter, mark] => letter.isAlpha && (mark = ':' || mark = '|')
  | _ => false

/-- Whether a segment names a drive, perhaps with a backslash and more after that. -/
private def startsWithDrive (segment : List Char) : Bool :=
  isDrive (segment.take 2) && (segment.drop 2).head?.all (· = '\\')

/-- Goes back by one segment, but never out of a drive. -/
private def back (above : List (List Char)) : List (List Char) :=
  if above.head?.any startsWithDrive then above else above.drop 1

/-- Lays segments on those before them, nearest first: one dot stays where it is, two go back. -/
private def climb (above : List (List Char)) : List (List Char) → List (List Char)
  | [] => above
  | segment :: rest =>
    let ended (above : List (List Char)) := if rest.isEmpty then [] :: above else above
    if isDotDotSegment segment then climb (ended (back above)) rest
    else if isDotSegment segment then climb (ended above) rest
    else climb (Percent.encode inPath segment :: above) rest

private def slashed (special : Bool) (text : List Char) : List Char :=
  if special then text.map fun char => if char = '\\' then '/' else char else text

private def pathBelow (above : List (List Char)) (special : Bool) (text : List Char) : List Char :=
  ((climb above ((slashed special text).splitOn '/')).reverse).flatMap ('/' :: ·)

private def untilMark (marks : List Char) (text : List Char) : List Char × List Char :=
  text.span fun char => !marks.contains char

private def trailer (special : Bool) (text : List Char) : Option (List Char) × Option (List Char) :=
  let fragment? (text : List Char) : Option (List Char) :=
    match text with
    | '#' :: rest => some (Percent.encode inFragment rest)
    | _ => none
  match text with
  | '?' :: rest =>
    let (query, rest) := untilMark ['#'] rest
    (some (Percent.encode (inQuery special) query), fragment? rest)
  | rest => (none, fragment? rest)

/-- A port after its colon, unless the scheme implies it, and what follows its digits. -/
private def port? (scheme text : List Char) : Option (Option Nat × List Char) :=
  let digits := text.takeWhile Text.isDigit
  let value := Text.decimalValue digits
  let rest := text.drop digits.length
  if 65535 < value then none
  else if !rest.head?.all (· = '\\') then none
  else if digits.isEmpty || defaultPort? scheme = some value then some (none, rest)
  else some (some value, rest)

/-- A host, its port, and what follows them before the path's first slash. The colon before a port
stands outside brackets, and not before a port alone. -/
private def hostAndPort? (scheme text : List Char) :
    Option (List Char × Option Nat × List Char) :=
  let name := if text.head? = some '[' then
      text.takeWhile (· ≠ ']') ++ (text.dropWhile (· ≠ ']')).takeWhile (· ≠ ':')
    else text.takeWhile (· ≠ ':')
  let rest := text.drop name.length
  do
    let host ← if isSpecial scheme then Host.read? name else Host.readName? name
    if rest.isEmpty then pure (host, none, [])
    else if host.isEmpty then none
    else
      let (port, rest) ← port? scheme (rest.drop 1)
      pure (host, port, rest)

/-- The credentials before an at sign; there are none if all of it is a colon. -/
private def credentials? (text : List Char) : Option Credentials :=
  let name := text.takeWhile (· ≠ ':')
  let password := text.drop (name.length + 1)
  if name.isEmpty && password.isEmpty then none
  else
    some ⟨Percent.encode inCredentials name,
      if password.isEmpty then none else some (Percent.encode inCredentials password)⟩

private def splitCredentials (authority : List Char) : Option (List Char) × List Char :=
  let hosted := (authority.reverse.takeWhile (· ≠ '@')).reverse
  if hosted.length = authority.length then (none, hosted)
  else (some (authority.take (authority.length - hosted.length - 1)), hosted)

/-- Reads what follows the two slashes. An at sign alone stands only at the end. -/
private def afterSlashes? (scheme text : List Char) : Option Url := do
  let special := isSpecial scheme
  let (authority, rest) := text.span fun char =>
    !(isSlash special char || char = '?' || char = '#')
  let (asking, hosted) := splitCredentials authority
  if asking = some [] && hosted.isEmpty && !rest.isEmpty then none
  else
    let credentials := asking.bind credentials?
    let (host, port, more) ← hostAndPort? scheme hosted
    if credentials.isSome && host.isEmpty then none
    else
      let (path, rest) := untilMark ['?', '#'] (more ++ rest)
      let (query, fragment) := trailer special rest
      let path :=
        if path.head?.any (isSlash special) then pathBelow [] special (path.drop 1)
        else if path.isEmpty && !special then []
        else pathBelow [] special path
      pure ⟨scheme, credentials, some host, port, path, query, fragment⟩

private def afterColon? (scheme text : List Char) : Option Url :=
  match text with
  | '/' :: '/' :: rest => afterSlashes? scheme rest
  | _ =>
    let (path, rest) := untilMark ['?', '#'] text
    let (query, fragment) := trailer false rest
    let path := match path with
      | '/' :: below => pathBelow [] false below
      | path => Percent.encode (fun _ => false) path
    some ⟨scheme, none, none, none, path, query, fragment⟩

/-- The host that a file is on; this one has no name. -/
private def fileHost? (name : List Char) : Option (List Char) :=
  if name.isEmpty then some []
  else (Host.read? name).map fun host => if host = "localhost".toList then [] else host

/-- Reads what follows the colon of a file's scheme: a path, or two slashes, a host and a path. A
drive is no host. -/
private def afterFile? (scheme text : List Char) : Option Url := do
  let isSlash := isSlash true
  let named := (text.take 2).length = 2 && (text.take 2).all isSlash
  let name := if named then
      (text.drop 2).takeWhile fun char => !(isSlash char || char = '?' || char = '#')
    else []
  let name := if isDrive name then [] else name
  let host ← fileHost? name
  let (path, rest) := untilMark ['?', '#'] (text.drop (if named then 2 + name.length else 0))
  let (query, fragment) := trailer true rest
  let below := if path.head?.any isSlash then path.drop 1 else path
  let path := '/' :: (pathBelow [] true below).dropWhile (· = '/')
  pure ⟨scheme, none, some host, none, path, query, fragment⟩

def read? (text : List Char) : Option Url := do
  let (scheme, rest) ← scheme? (strip text)
  if isFile scheme then afterFile? scheme rest
  else if isSpecial scheme then afterSlashes? scheme (rest.dropWhile (isSlash true))
  else afterColon? scheme rest

private def segments (path : List Char) : List (List Char) := (path.drop 1).splitOn '/'

/-- Reads a reference without a scheme in a document found at `base`, which is a web address. -/
private def reference? (base : Url) (text : List Char) : Option Url :=
  let slashes := (text.takeWhile (isSlash true)).length
  if 2 ≤ slashes then
    afterSlashes? base.scheme (text.drop (if text.take 2 = ['/', '/'] then 2 else slashes))
  else
    let (path, rest) := untilMark ['?', '#'] text
    let (query, fragment) := trailer true rest
    let query := if path.isEmpty && rest.head? ≠ some '?' then base.query else query
    let path := if path.isEmpty then base.path
      else if slashes = 1 then pathBelow [] true (path.drop 1)
      else pathBelow ((segments base.path).reverse.drop 1) true path
    some { base with path := path, query := query, fragment := fragment }

/-- Reads a URL as it stands in a document found at `base`, which is a web address. One with the
same scheme and fewer than two slashes goes on from there. -/
def resolve? (base : Url) (text : List Char) : Option Url :=
  let text := strip text
  match scheme? text with
  | none => reference? base text
  | some (scheme, rest) =>
    if scheme = base.scheme && (rest.takeWhile (isSlash true)).length < 2 then
      reference? base rest
    else read? text

/-! ### What URLs hold

Control characters are dropped or encoded wherever a URL is read, so that none comes up where it is
written.
-/

structure IsVisible (url : Url) : Prop where
  scheme : Text.Visible url.scheme
  credentials : ∀ credentials ∈ url.credentials, Text.Visible credentials.text
  host : ∀ host ∈ url.host, Text.Visible host
  path : Text.Visible url.path
  query : ∀ query ∈ url.query, Text.Visible query
  fragment : ∀ fragment ∈ url.fragment, Text.Visible fragment

private theorem visible_getD_map {α : Type} {spell : α → List Char} {value : Option α}
    (visible : ∀ present ∈ value, Text.Visible (spell present)) :
    Text.Visible ((value.map spell).getD []) := by
  cases value with
  | none => exact .nil
  | some present => exact visible present rfl

theorem IsVisible.text {url : Url} (visible : url.IsVisible) : Text.Visible url.text.toList := by
  have authority : Text.Visible url.authorityText := by
    have slashes : Text.Visible ['/', '/'] := by decide
    have port : Text.Visible ((url.port.map fun port => ':' :: Nat.toDigits 10 port).getD []) :=
      visible_getD_map fun port _ =>
        Text.Visible.cons_iff.mpr ⟨by decide, Text.Visible.toDigits 10 port⟩
    unfold authorityText
    split
    · split <;> decide
    · rename_i host named
      simp only [Text.Visible.append_iff, slashes, visible_getD_map visible.credentials,
        visible.host host named, port, true_and]
  have colon : Text.Visible [':'] := by decide
  have query : Text.Visible ((url.query.map ('?' :: ·)).getD []) := visible_getD_map fun query some =>
    Text.Visible.cons_iff.mpr ⟨by decide, visible.query query some⟩
  have fragment : Text.Visible ((url.fragment.map ('#' :: ·)).getD []) :=
    visible_getD_map fun fragment some =>
      Text.Visible.cons_iff.mpr ⟨by decide, visible.fragment fragment some⟩
  rw [Url.text, String.toList_ofList]
  simp only [Text.Visible.append_iff, visible.scheme, colon, authority, visible.path, query,
    fragment, true_and]

theorem IsVisible.withoutCredentials {url : Url} (visible : url.IsVisible) :
    url.withoutCredentials.IsVisible := by
  unfold Url.withoutCredentials
  split
  · exact visible
  · split
    · exact visible
    · exact visible
    · exact { visible with credentials := nofun }

private theorem visible_scheme? {text scheme rest : List Char}
    (found : scheme? text = some (scheme, rest)) : Text.Visible scheme := by
  unfold scheme? at found
  dsimp only at found
  split at found
  · split at found
    · cases found
      refine Text.Visible.lowerAscii fun char member => Nat.le_of_not_lt fun low => ?_
      have allowed := List.all_eq_true.mp List.all_takeWhile char member
      have none : ∀ code < 0x20, ((Char.ofNat code).isAlphanum || Char.ofNat code = '+' ||
          Char.ofNat code = '-' || Char.ofNat code = '.') = false := by decide
      have refused := none char.toNat low
      rw [Char.ofNat_toNat, allowed] at refused
      cases refused
    · cases found
  · cases found

private theorem visible_climb {above segments : List (List Char)}
    (visible : ∀ segment ∈ above, Text.Visible segment) :
    ∀ segment ∈ climb above segments, Text.Visible segment := by
  have ended (above : List (List Char)) (visible : ∀ segment ∈ above, Text.Visible segment)
      (last : Bool) : ∀ segment ∈ if last then [] :: above else above, Text.Visible segment := by
    split
    · exact List.forall_mem_cons.mpr ⟨.nil, visible⟩
    · exact visible
  induction segments generalizing above with
  | nil => exact visible
  | cons segment rest ih =>
    rw [climb]
    split
    · refine ih (ended _ ?_ _)
      unfold back
      split
      · exact visible
      · exact fun segment member => visible segment (List.mem_of_mem_drop member)
    · split
      · exact ih (ended _ visible _)
      · exact ih (List.forall_mem_cons.mpr ⟨Percent.visible_encode _ _, visible⟩)

private theorem visible_pathBelow {above : List (List Char)} (special : Bool) (text : List Char)
    (visible : ∀ segment ∈ above, Text.Visible segment) :
    Text.Visible (pathBelow above special text) := by
  refine Text.Visible.flatMap fun segment member => ?_
  exact Text.Visible.cons_iff.mpr
    ⟨by decide, visible_climb visible segment (List.mem_reverse.mp member)⟩

private theorem visible_trailer (special : Bool) (text : List Char) :
    (∀ query ∈ (trailer special text).1, Text.Visible query) ∧
      ∀ fragment ∈ (trailer special text).2, Text.Visible fragment := by
  have after (rest : List Char) : ∀ fragment ∈ (match rest with
      | '#' :: rest => some (Percent.encode inFragment rest)
      | _ => none : Option (List Char)), Text.Visible fragment := by
    split
    · rintro fragment ⟨⟩
      exact Percent.visible_encode _ _
    · nofun
  unfold trailer
  split
  · refine ⟨?_, after _⟩
    rintro query ⟨⟩
    exact Percent.visible_encode _ _
  · exact ⟨nofun, after _⟩

private theorem visible_hostAndPort? {scheme text host rest : List Char} {port : Option Nat}
    (found : hostAndPort? scheme text = some (host, port, rest)) : Text.Visible host := by
  unfold hostAndPort? at found
  extract_lets name more finish at found
  have finish_eq {named : List Char} (ended : finish named = some (host, port, rest)) :
      named = host := by
    simp only [finish] at ended
    split at ended
    · cases ended
      rfl
    · split at ended
      · cases ended
      · obtain ⟨_, _, ended⟩ := Option.bind_eq_some_iff.mp ended
        cases ended
        rfl
  split at found
  · obtain ⟨named, read, ended⟩ := Option.bind_eq_some_iff.mp found
    exact finish_eq ended ▸ Host.visible_read? read
  · obtain ⟨named, read, ended⟩ := Option.bind_eq_some_iff.mp found
    exact finish_eq ended ▸ Host.visible_readName? read

private theorem visible_credentials? {text : List Char} {credentials : Credentials}
    (found : credentials? text = some credentials) : Text.Visible credentials.text := by
  have mark : Text.Visible ['@'] := by decide
  unfold credentials? at found
  dsimp only at found
  split at found
  · cases found
  · cases found
    simp only [Credentials.text, Text.Visible.append_iff, Percent.visible_encode, mark, and_true,
      true_and]
    refine visible_getD_map fun password present => Text.Visible.cons_iff.mpr ⟨by decide, ?_⟩
    split at present
    · cases present
    · cases present
      exact Percent.visible_encode _ _

private theorem visible_afterSlashes? {scheme text : List Char} {url : Url}
    (visible : Text.Visible scheme) (found : afterSlashes? scheme text = some url) :
    url.IsVisible := by
  unfold afterSlashes? at found
  dsimp only at found
  split at found
  · cases found
  · obtain ⟨⟨host, port, more⟩, read, found⟩ := Option.bind_eq_some_iff.mp found
    dsimp only at found
    split at found
    · cases found
    · cases found
      constructor
      · exact visible
      · intro credentials asking
        obtain ⟨_, _, read⟩ := Option.bind_eq_some_iff.mp asking
        exact visible_credentials? read
      · rintro host ⟨⟩
        exact visible_hostAndPort? read
      · dsimp only
        split
        · exact visible_pathBelow _ _ nofun
        · split
          · exact .nil
          · exact visible_pathBelow _ _ nofun
      · exact (visible_trailer _ _).1
      · exact (visible_trailer _ _).2

private theorem visible_afterColon? {scheme text : List Char} {url : Url}
    (visible : Text.Visible scheme) (found : afterColon? scheme text = some url) :
    url.IsVisible := by
  unfold afterColon? at found
  split at found
  · exact visible_afterSlashes? visible found
  · cases found
    constructor
    · exact visible
    · nofun
    · nofun
    · dsimp only
      split
      · exact visible_pathBelow _ _ nofun
      · exact Percent.visible_encode _ _
    · exact (visible_trailer _ _).1
    · exact (visible_trailer _ _).2

private theorem visible_fileHost? {name host : List Char} (found : fileHost? name = some host) :
    Text.Visible host := by
  unfold fileHost? at found
  split at found
  · cases found
    exact .nil
  · obtain ⟨named, read, rfl⟩ := Option.map_eq_some_iff.mp found
    split
    · exact .nil
    · exact Host.visible_read? read

private theorem visible_afterFile? {scheme text : List Char} {url : Url}
    (visible : Text.Visible scheme) (found : afterFile? scheme text = some url) :
    url.IsVisible := by
  unfold afterFile? at found
  dsimp only at found
  obtain ⟨host, read, found⟩ := Option.bind_eq_some_iff.mp found
  cases found
  constructor
  · exact visible
  · nofun
  · rintro host ⟨⟩
    exact visible_fileHost? read
  · have below (text : List Char) : Text.Visible (pathBelow [] true text) :=
      visible_pathBelow _ _ nofun
    exact Text.Visible.cons_iff.mpr ⟨by decide, (below _).of_subset (List.dropWhile_subset _)⟩
  · exact (visible_trailer _ _).1
  · exact (visible_trailer _ _).2

/-- A URL that has been read is written without control characters. -/
theorem isVisible_of_read? {text : List Char} {url : Url} (found : read? text = some url) :
    url.IsVisible := by
  obtain ⟨⟨scheme, rest⟩, named, found⟩ := Option.bind_eq_some_iff.mp found
  have visible := visible_scheme? named
  dsimp only at found
  split at found
  · exact visible_afterFile? visible found
  · split at found
    · exact visible_afterSlashes? visible found
    · exact visible_afterColon? visible found

private theorem visible_reference? {base url : Url} {text : List Char} (visible : base.IsVisible)
    (found : reference? base text = some url) : url.IsVisible := by
  unfold reference? at found
  dsimp only at found
  split at found
  · exact visible_afterSlashes? visible.scheme found
  · cases found
    refine { visible with path := ?_, query := ?_, fragment := (visible_trailer _ _).2 }
    · dsimp only
      split
      · exact visible.path
      · split
        · exact visible_pathBelow _ _ nofun
        · refine visible_pathBelow _ _ fun segment member => ?_
          have below : Text.Visible (base.path.drop 1) :=
            visible.path.of_subset (List.drop_subset 1 _)
          have parts : ∀ segment ∈ segments base.path, Text.Visible segment :=
            (Text.Visible.splitOn_iff (by decide)).mpr below
          exact parts segment (List.mem_reverse.mp (List.mem_of_mem_drop member))
    · dsimp only
      split
      · exact visible.query
      · exact (visible_trailer _ _).1

/-- So is one that has been read in a document found at such a URL. -/
theorem isVisible_of_resolve? {base url : Url} {text : List Char} (visible : base.IsVisible)
    (found : resolve? base text = some url) : url.IsVisible := by
  unfold resolve? at found
  dsimp only at found
  split at found
  · exact visible_reference? visible found
  · split at found
    · exact visible_reference? visible found
    · exact isVisible_of_read? found

end Url

end HookRelay
