import Mathlib
import PfsenseMcp.Python.IpAddress

/-!
# Taking URLs apart

`urlsplit`, `urlparse`, `urljoin` and the attribute `hostname` of `urllib.parse` in Python's
standard library, version 3.11, on texts as lists of characters. A `ValueError` is `none`. The
tables of Unicode that they look into are parameters. Nothing here is about this repository.
-/

namespace Url

/-! ### Texts -/

/-- What `str.lower` and `unicodedata.normalize("NFKC", ·)` make of a text. -/
structure UnicodeTables where
  lower : List Char → List Char
  nfkc : List Char → List Char

/-- `text.partition(separator)[0]`. -/
def before (separator : Char) (text : List Char) : List Char := text.takeWhile (· ≠ separator)

/-- `text.partition(separator)[2]`. -/
def after (separator : Char) (text : List Char) : List Char :=
  (text.dropWhile (· ≠ separator)).tail

/-- `text.rpartition(separator)[2]`. -/
def afterLast (separator : Char) (text : List Char) : List Char :=
  (text.reverse.takeWhile (· ≠ separator)).reverse

/-- A character of `_WHATWG_C0_CONTROL_OR_SPACE`. -/
def isControlOrSpace (c : Char) : Bool := c.toNat ≤ 32

/-- `text.strip(_WHATWG_C0_CONTROL_OR_SPACE)`. -/
def stripControlOrSpace (text : List Char) : List Char :=
  ((text.dropWhile isControlOrSpace).reverse.dropWhile isControlOrSpace).reverse

/-- The text without `_UNSAFE_URL_BYTES_TO_REMOVE`. -/
def removeUnsafe (text : List Char) : List Char := text.filter (· ∉ ['\t', '\r', '\n'])

/-! ### `urlsplit` -/

/-- `SplitResult`. -/
structure SplitResult where
  scheme : List Char
  netloc : List Char
  path : List Char
  query : List Char
  fragment : List Char
deriving DecidableEq, Repr

/-- A character of `scheme_chars`. -/
def isSchemeChar (c : Char) : Bool := c.isAlphanum || c ∈ ['+', '-', '.']

/-- Whether a text starts with a scheme and a colon. -/
def hasScheme (url : List Char) : Bool :=
  ':' ∈ url && (url.head?.map Char.isAlpha).getD false && (before ':' url).all isSchemeChar

/-- `_splitnetloc(url, 2)`, of what follows the two slashes. -/
def splitNetloc (url : List Char) : List Char × List Char :=
  (url.takeWhile (· ∉ ['/', '?', '#']), url.dropWhile (· ∉ ['/', '?', '#']))

/-- A text that `\Av[a-fA-F0-9]+\..+\Z` matches. -/
def isIpvFuture (text : List Char) : Bool :=
  let isHex (c : Char) : Bool := (IpAddress.hexDigit c).isSome
  match text with
  | 'v' :: rest =>
    let version := rest.takeWhile isHex
    match rest.dropWhile isHex with
    | '.' :: address => version ≠ [] ∧ address ≠ [] ∧ '\n' ∉ address
    | _ => false
  | _ => false

/-- `_check_bracketed_host` accepts what is in brackets. -/
def checkBracketedHost (hostname : List Char) : Bool :=
  if hostname.head? = some 'v' then isIpvFuture hostname
  else (IpAddress.ipv4 hostname).isNone && (IpAddress.ipv6 hostname).isSome

/-- The checks of the brackets of a network location. -/
def checkBrackets (netloc : List Char) : Bool :=
  if '[' ∈ netloc then ']' ∈ netloc && checkBracketedHost (before ']' (after '[' netloc))
  else ']' ∉ netloc

/-- `_checknetloc` accepts a network location. -/
def checkNetloc (tables : UnicodeTables) (netloc : List Char) : Bool :=
  if netloc.all fun c => c.toNat < 128 then true
  else
    let n := netloc.filter (· ∉ ['@', ':', '#', '?'])
    let normalized := tables.nfkc n
    n = normalized ∨ ∀ c ∈ ['/', '?', '#', '@', ':'], c ∉ normalized

/-- `urlsplit(url, scheme)`. -/
def urlsplit (tables : UnicodeTables) (url scheme : List Char) : Option SplitResult :=
  let url := removeUnsafe (url.dropWhile isControlOrSpace)
  let default := removeUnsafe (stripControlOrSpace scheme)
  let scheme := if hasScheme url then (before ':' url).map Char.toLower else default
  let url := if hasScheme url then after ':' url else url
  let (netloc, rest) := match url with
    | '/' :: '/' :: url => splitNetloc url
    | url => ([], url)
  if checkBrackets netloc && checkNetloc tables netloc then
    let url := before '#' rest
    some { scheme, netloc, path := before '?' url, query := after '?' url,
           fragment := after '#' rest }
  else none

/-- The attribute `hostname` of a result. -/
def SplitResult.hostname (tables : UnicodeTables) (parts : SplitResult) : Option (List Char) :=
  let hostinfo := afterLast '@' parts.netloc
  let hostname :=
    if '[' ∈ hostinfo then before ']' (after '[' hostinfo) else before ':' hostinfo
  if hostname = [] then none
  else some <| tables.lower (before '%' hostname) ++ hostname.dropWhile (· ≠ '%')

/-! ### `urljoin` -/

/-- `uses_relative`. -/
def usesRelative : List String :=
  ["", "ftp", "http", "gopher", "nntp", "imap", "wais", "file", "https", "shttp", "mms", "prospero",
    "rtsp", "rtsps", "rtspu", "sftp", "svn", "svn+ssh", "ws", "wss"]

/-- `uses_netloc`. -/
def usesNetloc : List String :=
  ["", "ftp", "http", "gopher", "nntp", "telnet", "imap", "wais", "file", "mms", "https", "shttp",
    "snews", "prospero", "rtsp", "rtsps", "rtspu", "rsync", "svn", "svn+ssh", "sftp", "nfs", "git",
    "git+ssh", "ws", "wss"]

/-- `uses_params`. -/
def usesParams : List String :=
  ["", "ftp", "hdl", "prospero", "http", "imap", "https", "shttp", "rtsp", "rtsps", "rtspu", "sip",
    "sips", "mms", "sftp", "tel"]

/-- `ParseResult`. -/
structure ParseResult where
  scheme : List Char
  netloc : List Char
  path : List Char
  params : List Char
  query : List Char
  fragment : List Char
deriving DecidableEq, Repr

/-- `_splitparams`: the parameters follow the first semicolon of the last segment. -/
def splitParams (path : List Char) : List Char × List Char :=
  let last := afterLast '/' path
  let directory := path.take (path.length - last.length)
  (directory ++ before ';' last, after ';' last)

/-- `urlparse(url, scheme)`. -/
def urlparse (tables : UnicodeTables) (url scheme : List Char) : Option ParseResult :=
  (urlsplit tables url scheme).map fun parts =>
    let (path, params) :=
      if String.ofList parts.scheme ∈ usesParams ∧ ';' ∈ parts.path then splitParams parts.path
      else (parts.path, [])
    ⟨parts.scheme, parts.netloc, path, params, parts.query, parts.fragment⟩

/-- `urlunparse`. -/
def urlunparse (parts : ParseResult) : List Char :=
  let url := if parts.params = [] then parts.path else parts.path ++ ';' :: parts.params
  let url :=
    if parts.netloc ≠ [] ∨ (parts.scheme ≠ [] ∧ String.ofList parts.scheme ∈ usesNetloc) ∨
        url.take 2 = ['/', '/'] then
      '/' :: '/' :: (parts.netloc ++ (if url ≠ [] ∧ url.head? ≠ some '/' then '/' :: url else url))
    else url
  let url := if parts.scheme = [] then url else parts.scheme ++ ':' :: url
  let url := if parts.query = [] then url else url ++ '?' :: parts.query
  if parts.fragment = [] then url else url ++ '#' :: parts.fragment

/-- A list whose empty items are dropped, but for the first and the last. -/
def filterInner : List (List Char) → List (List Char)
  | [] => []
  | first :: rest =>
    match rest.getLast? with
    | none => [first]
    | some last => first :: (rest.dropLast.filter (· ≠ []) ++ [last])

/-- The segments of a path without those for a directory and for the one above it. -/
def resolveSegments (segments : List (List Char)) : List (List Char) :=
  let resolved := segments.foldl (fun resolved segment =>
    if segment = ['.', '.'] then resolved.dropLast
    else if segment = ['.'] then resolved else resolved ++ [segment]) []
  if segments.getLast? = some ['.'] ∨ segments.getLast? = some ['.', '.'] then resolved ++ [[]]
  else resolved

/-- The segments of a path that is relative to another. -/
def joinSegments (base path : List Char) : List (List Char) :=
  if path.head? = some '/' then IpAddress.split '/' path
  else
    let parts := IpAddress.split '/' base
    let parts := if parts.getLast? = some [] then parts else parts.dropLast
    filterInner (parts ++ IpAddress.split '/' path)

/-- `urljoin(base, url)`. -/
def urljoin (tables : UnicodeTables) (base url : List Char) : Option (List Char) :=
  if base = [] then some url
  else if url = [] then some base
  else do
    let b ← urlparse tables base []
    let parts ← urlparse tables url b.scheme
    let scheme := String.ofList parts.scheme
    if parts.scheme ≠ b.scheme ∨ scheme ∉ usesRelative then some url
    else if scheme ∈ usesNetloc ∧ parts.netloc ≠ [] then some (urlunparse parts)
    else
      let netloc := if scheme ∈ usesNetloc then b.netloc else parts.netloc
      if parts.path = [] ∧ parts.params = [] then
        let query := if parts.query = [] then b.query else parts.query
        some <| urlunparse { parts with netloc, path := b.path, params := b.params, query }
      else
        let path := ['/'].intercalate (resolveSegments (joinSegments b.path parts.path))
        some <| urlunparse { parts with netloc, path := if path = [] then ['/'] else path }

end Url
