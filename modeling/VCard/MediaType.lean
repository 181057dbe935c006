import VCard.Text.Case
/-! Media types: names of binary formats (RFC 6838) and how they are guessed.

A media type is found from a file extension through the common table of
extensions, and an extension from a media type by the first extension the table
lists for it. Versions 2.1 and 3.0 of vCard name a format by a short `TYPE`
word (`JPEG`, `WAVE`, `PGP`); `typeNameFor` and `mediaTypeFor` go between such
words and media types, falling back on the extension table and then on the
subtype itself. -/
namespace VCard.MediaType

/-- Media types by file extension, in the order the common table lists them. -/
def byExtension : List (String × String) :=
  [(".js", "application/javascript"), (".mjs", "application/javascript"),
   (".json", "application/json"), (".webmanifest", "application/manifest+json"),
   (".doc", "application/msword"), (".dot", "application/msword"), (".wiz", "application/msword"),
   (".nq", "application/n-quads"), (".nt", "application/n-triples"),
   (".bin", "application/octet-stream"), (".a", "application/octet-stream"),
   (".dll", "application/octet-stream"), (".exe", "application/octet-stream"),
   (".o", "application/octet-stream"), (".obj", "application/octet-stream"),
   (".so", "application/octet-stream"), (".oda", "application/oda"), (".pdf", "application/pdf"),
   (".p7c", "application/pkcs7-mime"), (".ps", "application/postscript"),
   (".ai", "application/postscript"), (".eps", "application/postscript"),
   (".trig", "application/trig"), (".m3u", "application/vnd.apple.mpegurl"),
   (".m3u8", "application/vnd.apple.mpegurl"), (".xls", "application/vnd.ms-excel"),
   (".xlb", "application/vnd.ms-excel"), (".ppt", "application/vnd.ms-powerpoint"),
   (".pot", "application/vnd.ms-powerpoint"), (".ppa", "application/vnd.ms-powerpoint"),
   (".pps", "application/vnd.ms-powerpoint"), (".pwz", "application/vnd.ms-powerpoint"),
   (".wasm", "application/wasm"), (".bcpio", "application/x-bcpio"), (".cpio", "application/x-cpio"),
   (".csh", "application/x-csh"), (".dvi", "application/x-dvi"), (".gtar", "application/x-gtar"),
   (".hdf", "application/x-hdf"), (".h5", "application/x-hdf5"), (".latex", "application/x-latex"),
   (".mif", "application/x-mif"), (".cdf", "application/x-netcdf"), (".nc", "application/x-netcdf"),
   (".p12", "application/x-pkcs12"), (".pfx", "application/x-pkcs12"),
   (".ram", "application/x-pn-realaudio"), (".pyc", "application/x-python-code"),
   (".pyo", "application/x-python-code"), (".sh", "application/x-sh"), (".shar", "application/x-shar"),
   (".swf", "application/x-shockwave-flash"), (".sv4cpio", "application/x-sv4cpio"),
   (".sv4crc", "application/x-sv4crc"), (".tar", "application/x-tar"), (".tcl", "application/x-tcl"),
   (".tex", "application/x-tex"), (".texi", "application/x-texinfo"),
   (".texinfo", "application/x-texinfo"), (".roff", "application/x-troff"),
   (".t", "application/x-troff"), (".tr", "application/x-troff"), (".man", "application/x-troff-man"),
   (".me", "application/x-troff-me"), (".ms", "application/x-troff-ms"),
   (".ustar", "application/x-ustar"), (".src", "application/x-wais-source"),
   (".xsl", "application/xml"), (".rdf", "application/xml"), (".wsdl", "application/xml"),
   (".xpdl", "application/xml"), (".zip", "application/zip"), (".3gp", "audio/3gpp"),
   (".3gpp", "audio/3gpp"), (".3g2", "audio/3gpp2"), (".3gpp2", "audio/3gpp2"), (".aac", "audio/aac"),
   (".adts", "audio/aac"), (".loas", "audio/aac"), (".ass", "audio/aac"), (".au", "audio/basic"),
   (".snd", "audio/basic"), (".mp3", "audio/mpeg"), (".mp2", "audio/mpeg"), (".opus", "audio/opus"),
   (".aif", "audio/x-aiff"), (".aifc", "audio/x-aiff"), (".aiff", "audio/x-aiff"),
   (".ra", "audio/x-pn-realaudio"), (".wav", "audio/x-wav"), (".avif", "image/avif"),
   (".bmp", "image/bmp"), (".gif", "image/gif"), (".ief", "image/ief"), (".jpg", "image/jpeg"),
   (".jpe", "image/jpeg"), (".jpeg", "image/jpeg"), (".heic", "image/heic"), (".heif", "image/heif"),
   (".png", "image/png"), (".svg", "image/svg+xml"), (".tiff", "image/tiff"), (".tif", "image/tiff"),
   (".ico", "image/vnd.microsoft.icon"), (".ras", "image/x-cmu-raster"),
   (".pnm", "image/x-portable-anymap"), (".pbm", "image/x-portable-bitmap"),
   (".pgm", "image/x-portable-graymap"), (".ppm", "image/x-portable-pixmap"), (".rgb", "image/x-rgb"),
   (".xbm", "image/x-xbitmap"), (".xpm", "image/x-xpixmap"), (".xwd", "image/x-xwindowdump"),
   (".eml", "message/rfc822"), (".mht", "message/rfc822"), (".mhtml", "message/rfc822"),
   (".nws", "message/rfc822"), (".css", "text/css"), (".csv", "text/csv"), (".html", "text/html"),
   (".htm", "text/html"), (".n3", "text/n3"), (".txt", "text/plain"), (".bat", "text/plain"),
   (".c", "text/plain"), (".h", "text/plain"), (".ksh", "text/plain"), (".pl", "text/plain"),
   (".srt", "text/plain"), (".rtx", "text/richtext"), (".tsv", "text/tab-separated-values"),
   (".vtt", "text/vtt"), (".py", "text/x-python"), (".etx", "text/x-setext"), (".sgm", "text/x-sgml"),
   (".sgml", "text/x-sgml"), (".vcf", "text/x-vcard"), (".xml", "text/xml"), (".mp4", "video/mp4"),
   (".mpeg", "video/mpeg"), (".m1v", "video/mpeg"), (".mpa", "video/mpeg"), (".mpe", "video/mpeg"),
   (".mpg", "video/mpeg"), (".mov", "video/quicktime"), (".qt", "video/quicktime"),
   (".webm", "video/webm"), (".avi", "video/x-msvideo"), (".movie", "video/x-sgi-movie")]

/-- Compressed-archive extensions that stand for two extensions. -/
def suffixes : List (String × String) :=
  [(".svgz", ".svg.gz"), (".tgz", ".tar.gz"), (".taz", ".tar.gz"), (".tz", ".tar.gz"),
   (".tbz2", ".tar.bz2"), (".txz", ".tar.xz")]

/-- Extensions of compression, which a type guess looks through. -/
def compressions : List String := [".gz", ".Z", ".bz2", ".xz", ".br"]

/-- The media type of an extension (dot included), without regard to case. -/
def ofExtension? (ext : String) : Option String :=
  (byExtension.find? (·.1 == Text.lower ext)).map (·.2)

/-- The first extension listed for a media type, without regard to case. -/
def extension? (mediaType : String) : Option String :=
  (byExtension.find? (·.2 == Text.lower mediaType)).map (·.1)

/-- A path split before the dot of its extension; dots that begin the last
segment do not start an extension. -/
def splitExtension (p : String) : String × String :=
  let cs := p.toList
  let lastSep := (cs.findIdx? (· == '/') |>.map fun _ =>
    cs.length - 1 - (cs.reverse.findIdx? (· == '/')).getD 0)
  let start := match lastSep with
    | some i => i + 1
    | none => 0
  let name := cs.drop start
  match name.reverse.findIdx? (· == '.') with
  | none => (p, "")
  | some j =>
    let dot := name.length - 1 - j
    if (name.take dot).all (· == '.') then (p, "")
    else (String.ofList (cs.take (start + dot)), String.ofList (name.drop dot))

/-- The media type a path or URL suggests by its extension. A `data:` URL names
its type itself, and `text/plain` when the name has no `/` or has a `=`. -/
def ofPath? (url : String) : Option String :=
  let cs := url.toList
  let scheme := match cs.findIdx? (· == ':') with
    | some i =>
      let s := cs.take i
      if !s.isEmpty && s.all (fun c => c != '/') then some (Text.lower (String.ofList s), cs.drop (i + 1))
      else none
    | none => none
  match scheme with
  | some ("data", rest) =>
    match rest.findIdx? (· == ',') with
    | none => none
    | some comma =>
      let head := rest.take comma
      let t := match head.findIdx? (· == ';') with
        | some semi => head.take semi
        | none => head
      if t.contains '=' || !t.contains '/' then some "text/plain" else some (String.ofList t)
  | _ =>
    let path := match scheme with
      | some (_, rest) => String.ofList rest
      | none => url
    let (base, ext) := splitExtension path
    let (base, ext) := match suffixes.find? (·.1 == Text.lower ext) with
      | some (_, longer) => splitExtension (base ++ longer)
      | none => (base, ext)
    let ext := if compressions.contains ext then (splitExtension base).2 else ext
    ofExtension? ext

/-- The `TYPE` words of versions 2.1 and 3.0 for media types. -/
def typeNames : List (String × String) :=
  [("image/jpeg", "JPEG"), ("image/gif", "GIF"), ("image/png", "PNG"), ("image/bmp", "BMP"),
   ("image/tiff", "TIFF"), ("image/svg+xml", "SVG"), ("audio/wav", "WAVE"), ("audio/x-wav", "WAVE"),
   ("audio/mpeg", "MP3"), ("audio/ogg", "OGG"), ("audio/aac", "AAC"), ("video/mpeg", "MPEG"),
   ("video/quicktime", "QTIME"), ("application/pgp-keys", "PGP"),
   ("application/x-x509-ca-cert", "X509"), ("application/pkcs10", "PKCS10")]

/-- Words read as media types besides those of `typeNames`. -/
def extraTypeNames : List (String × String) :=
  [("JPG", "image/jpeg"), ("WAV", "audio/wav"), ("X-WAV", "audio/wav"), ("MP4", "audio/mp4")]

/-- The media type of a `TYPE` word: `JPEG` is `image/jpeg`. A word with a `/` is
already a media type; an unknown word is tried as a file extension, and is
otherwise kept in lower case. -/
def mediaTypeFor (typeName : String) : String :=
  if typeName.contains '/' then Text.lower typeName
  else
    let key := Text.upper typeName
    match (extraTypeNames.find? (·.1 == key)).map (·.2) with
    | some m => m
    | none =>
      match (typeNames.find? (·.2 == key)).map (·.1) with
      | some m => m
      | none => (ofPath? ("file." ++ Text.lower typeName)).getD (Text.lower typeName)

/-- The `TYPE` word of a media type: `image/jpeg` is `JPEG`. An unknown type gives
its first listed extension, else its subtype, in capitals. -/
def typeNameFor (mediaType : String) : String :=
  match (typeNames.find? (·.1 == Text.lower mediaType)).map (·.2) with
  | some n => n
  | none =>
    match extension? mediaType with
    | some ext => Text.upper (String.ofList (ext.toList.dropWhile (· == '.')))
    | none =>
      let sub := (mediaType.splitOn "/").getLast?.getD mediaType
      Text.upper sub

end VCard.MediaType
