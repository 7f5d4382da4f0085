/-!
# Content types

The type of a file is told by the extension of its name, in either case; a file without an extension, or
with an unknown one, is just bytes.  Types that begin alike stand together in `families`, each by what is
behind the common front.
-/

namespace DnsConsole.Http.ContentType

/-! ### The table -/

/-- The types behind `application/`, those of vendors apart. -/
def application : List (String × List String) :=
  [("PowerShell", ["psc1"]), ("acad", ["dwg"]), ("andrew-inset", ["ez"]), ("annodex", ["anx"]),
    ("applixware", ["aw"]), ("atom+xml", ["atom"]), ("atomcat+xml", ["atomcat"]),
    ("atomdeleted+xml", ["atomdeleted"]), ("atomsvc+xml", ["atomsvc"]), ("atsc-dwd+xml", ["dwd"]),
    ("atsc-held+xml", ["held"]), ("atsc-rsat+xml", ["rsat"]), ("bdoc", ["bdoc"]),
    ("calendar+xml", ["xcs"]), ("ccxml+xml", ["ccxml"]), ("cdfx+xml", ["cdfx"]),
    ("cdmi-capability", ["cdmia"]), ("cdmi-container", ["cdmic"]), ("cdmi-domain", ["cdmid"]),
    ("cdmi-object", ["cdmio"]), ("cdmi-queue", ["cdmiq"]), ("cu-seeme", ["cu"]),
    ("dash+xml", ["mpd"]), ("davmount+xml", ["davmount"]), ("directx", ["x"]),
    ("docbook+xml", ["dbk"]), ("dssc+der", ["dssc"]), ("dssc+xml", ["xdssc"]),
    ("ecmascript", ["ecma", "es"]), ("emma+xml", ["emma"]), ("emotionml+xml", ["emotionml"]),
    ("envoy", ["evy"]), ("epub+zip", ["epub"]), ("etl", ["etl"]), ("exi", ["exi"]),
    ("fdt+xml", ["fdt"]), ("font-tdpfr", ["pfr"]), ("fractals", ["fif"]),
    ("fsharp-script", ["fsscript", "fsx"]), ("futuresplash", ["spl"]), ("geo+json", ["geojson"]),
    ("gml+xml", ["gml"]), ("gpx+xml", ["gpx"]), ("gxf", ["gxf"]), ("gzip", ["gz"]),
    ("hjson", ["hjson"]), ("hta", ["hta"]), ("hyperstudio", ["stk"]),
    ("inkml+xml", ["ink", "inkml"]), ("internet-property-stream", ["acx"]), ("ipfix", ["ipfix"]),
    ("its+xml", ["its"]), ("java-archive", ["ear", "jar", "war"]),
    ("java-serialized-object", ["ser"]), ("json", ["json"]), ("json5", ["json5"]),
    ("jsonml+json", ["jsonml"]), ("ld+json", ["jsonld"]), ("lgr+xml", ["lgr"]),
    ("liquidmotion", ["jck", "jcz"]), ("lost+xml", ["lostxml"]), ("mac-binhex40", ["hqx"]),
    ("mac-compactpro", ["cpt"]), ("mads+xml", ["mads"]), ("manifest+json", ["webmanifest"]),
    ("marc", ["mrc"]), ("marcxml+xml", ["mrcx"]), ("mathematica", ["ma", "mb", "nb"]),
    ("mathml+xml", ["mathml"]), ("mbox", ["mbox"]), ("mediaservercontrol+xml", ["mscml"]),
    ("metalink+xml", ["metalink"]), ("metalink4+xml", ["meta4"]), ("mets+xml", ["mets"]),
    ("mmt-aei+xml", ["maei"]), ("mmt-usd+xml", ["musd"]), ("mods+xml", ["mods"]),
    ("mp21", ["m21", "mp21"]), ("mp4", ["mp4s"]), ("mpeg", ["amc"]), ("ms-vsi", ["vsi"]),
    ("msaccess", ["accdb", "accde", "accdt", "ade", "adp", "mda", "mde"]),
    ("msaccess.addin", ["accda"]), ("msaccess.cab", ["accdc"]), ("msaccess.ftemplate", ["accft"]),
    ("msaccess.runtime", ["accdr"]), ("msaccess.webapplication", ["accdw"]),
    ("msword", ["doc", "dot", "wbk", "wiz"]), ("mxf", ["mxf"]), ("n-quads", ["nq"]),
    ("n-triples", ["nt"]), ("node", ["cjs"]), ("octet-stream", ["aaf", "aca", "afm", "asd", "asi",
    "bin", "bpk", "buffer", "cab", "chm", "cur", "dat", "deb", "deploy", "dist", "distz", "dmg",
    "dms", "dsp", "dump", "dwp", "elc", "emz", "exe", "fla", "hhk", "hhp", "hxd", "hxh", "hxi",
    "hxq", "hxr", "hxs", "hxw", "img", "inf", "iso", "java", "jpb", "lpk", "lrf", "lzh", "mar",
    "mdp", "mix", "msi", "msm", "mso", "msp", "ocx", "pcx", "pcz", "pfb", "pfm", "pkg", "prm",
    "prx", "psd", "psm", "psp", "qxd", "rvt", "sea", "smi", "snp", "so", "thn", "toc", "u32", "xmp",
    "xsn", "xtp"]), ("oda", ["oda"]), ("oebps-package+xml", ["opf"]), ("ogg", ["ogx"]),
    ("olescript", ["axs"]), ("omdoc+xml", ["omdoc"]),
    ("onenote", ["one", "onea", "onepkg", "onetmp", "onetoc", "onetoc2"]),
    ("opensearchdescription+xml", ["osdx"]), ("oxps", ["oxps"]), ("p2p-overlay+xml", ["relo"]),
    ("patch-ops-error+xml", ["xer"]), ("pdf", ["pdf"]), ("pgp-encrypted", ["pgp"]),
    ("pgp-signature", ["asc", "sig"]), ("pics-rules", ["prf"]), ("pkcs10", ["p10"]),
    ("pkcs7-mime", ["p7c", "p7m"]), ("pkcs7-signature", ["p7s"]), ("pkcs8", ["p8"]),
    ("pkix-attr-cert", ["ac"]), ("pkix-crl", ["crl"]), ("pkix-pkipath", ["pkipath"]),
    ("pkixcmp", ["pki"]), ("postscript", ["ai", "eps", "ps"]), ("provenance+xml", ["provx"]),
    ("prs.cww", ["cww"]), ("pskc+xml", ["pskcxml"]), ("raml+yaml", ["raml"]), ("rat-file", ["rat"]),
    ("rdf+xml", ["owl", "rdf"]), ("reginfo+xml", ["rif"]), ("relax-ng-compact-syntax", ["rnc"]),
    ("resource-lists+xml", ["rl"]), ("resource-lists-diff+xml", ["rld"]),
    ("route-apd+xml", ["rapd"]), ("route-s-tsid+xml", ["sls"]), ("route-usd+xml", ["rusd"]),
    ("rpki-ghostbusters", ["gbr"]), ("rpki-manifest", ["mft"]), ("rpki-roa", ["roa"]),
    ("rsd+xml", ["rsd"]), ("rss+xml", ["rss"]), ("rtf", ["rtf"]), ("sbml+xml", ["sbml"]),
    ("scvp-cv-request", ["scq"]), ("scvp-cv-response", ["scs"]), ("scvp-vp-request", ["spq"]),
    ("scvp-vp-response", ["spp"]), ("sdp", ["sdp"]), ("senml+xml", ["senmlx"]),
    ("sensml+xml", ["sensmlx"]), ("set-payment-initiation", ["setpay"]),
    ("set-registration-initiation", ["setreg"]), ("shf+xml", ["shf"]), ("sieve", ["sieve", "siv"]),
    ("smil+xml", ["smil"]), ("sparql-query", ["rq"]), ("sparql-results+xml", ["srx"]),
    ("srgs", ["gram"]), ("srgs+xml", ["grxml"]), ("sru+xml", ["sru"]), ("ssdl+xml", ["ssdl"]),
    ("ssml+xml", ["ssml"]), ("step", ["step", "stp"]), ("streamingmedia", ["ssm"]),
    ("swid+xml", ["swidtag"]), ("tei+xml", ["tei", "teicorpus"]), ("thraud+xml", ["tfi"]),
    ("timestamped-data", ["tsd"]), ("trig", ["trig"]), ("ttml+xml", ["ttml"]), ("ubjson", ["ubj"]),
    ("urc-ressheet+xml", ["rsheet"]), ("urc-targetdesc+xml", ["td"]), ("voicexml+xml", ["vxml"]),
    ("vsix", ["vsix"]), ("wasm", ["wasm"]), ("watcherinfo+xml", ["wif"]), ("widget", ["wgt"]),
    ("windows-library+xml", ["library-ms"]),
    ("windows-search-connector+xml", ["searchconnector-ms"]), ("winhlp", ["hlp"]),
    ("wlmoviemaker", ["wlmp"]), ("wspolicy+xml", ["wspolicy"]), ("x-7z-compressed", ["7z"]),
    ("x-abiword", ["abw"]), ("x-ace-compressed", ["ace"]), ("x-arj", ["arj"]),
    ("x-authorware-bin", ["aab", "vox", "x32"]), ("x-authorware-map", ["aam"]),
    ("x-authorware-seg", ["aas"]), ("x-bcpio", ["bcpio"]), ("x-bittorrent", ["torrent"]),
    ("x-blorb", ["blb", "blorb"]), ("x-bridge-url", ["adobebridge"]), ("x-bzip", ["bz"]),
    ("x-bzip2", ["boz", "bz2"]), ("x-cbr", ["cb7", "cba", "cbr", "cbt", "cbz"]), ("x-cdf", ["cdf"]),
    ("x-cdlink", ["vcd"]), ("x-cfs-compressed", ["cfs"]), ("x-chat", ["chat"]),
    ("x-chess-pgn", ["pgn"]), ("x-chrome-extension", ["crx"]), ("x-cocoa", ["cco"]),
    ("x-compress", ["z"]), ("x-compressed", ["tgz"]), ("x-cpio", ["cpio"]), ("x-csh", ["csh"]),
    ("x-debian-package", ["udeb"]), ("x-dgc-compressed", ["dgc"]),
    ("x-director", ["cct", "cst", "cxt", "dcr", "dir", "dxr", "fgd", "swa", "w3d"]),
    ("x-doom", ["wad"]), ("x-dtbncx+xml", ["ncx"]), ("x-dtbook+xml", ["dtb"]),
    ("x-dtbresource+xml", ["res"]), ("x-dvi", ["dvi"]), ("x-dxf", ["dxf"]), ("x-eva", ["eva"]),
    ("x-font-bdf", ["bdf"]), ("x-font-ghostscript", ["gsf"]), ("x-font-linux-psf", ["psf"]),
    ("x-font-pcf", ["pcf"]), ("x-font-snf", ["snf"]), ("x-font-type1", ["pfa"]),
    ("x-freearc", ["arc"]), ("x-gca-compressed", ["gca"]), ("x-glulx", ["ulx"]),
    ("x-gnumeric", ["gnumeric"]), ("x-gramps-xml", ["gramps"]), ("x-gtar", ["gtar"]),
    ("x-hdf", ["hdf"]), ("x-httpd-php", ["php"]), ("x-install-instructions", ["install"]),
    ("x-internet-signup", ["ins", "isp"]), ("x-iphone", ["iii"]), ("x-itunes-ipa", ["ipa"]),
    ("x-itunes-ipg", ["ipg"]), ("x-itunes-ipsw", ["ipsw"]), ("x-itunes-ite", ["ite"]),
    ("x-itunes-itlp", ["itlp"]), ("x-itunes-itms", ["itms"]), ("x-itunes-itpc", ["itpc"]),
    ("x-java-applet", ["class"]), ("x-java-archive-diff", ["jardiff"]),
    ("x-java-jnlp-file", ["jnlp"]), ("x-keepass2", ["kdbx"]), ("x-koan", ["skp"]),
    ("x-latex", ["latex"]), ("x-lua-bytecode", ["luac"]), ("x-lzh-compressed", ["lha"]),
    ("x-makeself", ["run"]), ("x-mie", ["mie"]), ("x-miva-compiled", ["mvc"]), ("x-mmxp", ["mxp"]),
    ("x-mobipocket-ebook", ["mobi", "prc"]), ("x-ms-application", ["application"]),
    ("x-ms-license", ["slupkg-ms"]), ("x-ms-manifest", ["manifest"]), ("x-ms-reader", ["lit"]),
    ("x-ms-shortcut", ["lnk"]), ("x-ms-vsto", ["vsto"]), ("x-ms-wmd", ["wmd"]),
    ("x-ms-wmz", ["wmz"]), ("x-ms-xbap", ["xbap"]), ("x-msaccess", ["mdb"]),
    ("x-msbinder", ["obd"]), ("x-mscardfile", ["crd"]), ("x-msclip", ["clp"]),
    ("x-msdownload", ["bat", "com", "dll"]), ("x-msmediaview", ["m13", "m14", "mvb"]),
    ("x-msmetafile", ["emf", "wmf"]), ("x-msmoney", ["mny"]), ("x-mspublisher", ["pub"]),
    ("x-msschedule", ["scd"]), ("x-msterminal", ["trm"]), ("x-mswrite", ["wri"]),
    ("x-netcdf", ["nc"]), ("x-ns-proxy-autoconfig", ["pac"]), ("x-nzb", ["nzb"]),
    ("x-oleobject", ["hhc"]), ("x-perfmon", ["pma", "pmc", "pml", "pmr", "pmw"]),
    ("x-perl", ["pl", "pm"]), ("x-pkcs12", ["p12", "pfx"]),
    ("x-pkcs7-certificates", ["p7b", "spc"]), ("x-pkcs7-certreqresp", ["p7r"]),
    ("x-podcast", ["pcast"]), ("x-quicktimeplayer", ["qtl"]), ("x-rar-compressed", ["rar"]),
    ("x-research-info-systems", ["ris"]), ("x-safari-safariextz", ["safariextz"]),
    ("x-safari-webarchive", ["webarchive"]), ("x-sgimb", ["sgimb"]), ("x-sh", ["sh"]),
    ("x-shar", ["shar"]), ("x-shockwave-flash", ["mfp", "swf"]), ("x-silverlight-app", ["xap"]),
    ("x-smaf", ["mmf"]), ("x-sql", ["sql"]), ("x-stuffit", ["sit"]), ("x-stuffitx", ["sitx"]),
    ("x-subrip", ["srt"]), ("x-sv4cpio", ["sv4cpio"]), ("x-sv4crc", ["sv4crc"]),
    ("x-t3vm-image", ["t3"]), ("x-tads", ["gam"]), ("x-tar", ["tar"]), ("x-tcl", ["tcl", "tk"]),
    ("x-tex", ["tex"]), ("x-tex-tfm", ["tfm"]), ("x-texinfo", ["texi", "texinfo"]),
    ("x-tgif", ["obj"]), ("x-troff", ["roff", "t", "tr"]), ("x-troff-man", ["man"]),
    ("x-troff-me", ["me"]), ("x-troff-ms", ["ms"]), ("x-ustar", ["ustar"]),
    ("x-virtualbox-hdd", ["hdd"]), ("x-virtualbox-ova", ["ova"]), ("x-virtualbox-ovf", ["ovf"]),
    ("x-virtualbox-vbox", ["vbox"]), ("x-virtualbox-vbox-extpack", ["vbox-extpack"]),
    ("x-virtualbox-vdi", ["vdi"]), ("x-virtualbox-vhd", ["vhd"]), ("x-virtualbox-vmdk", ["vmdk"]),
    ("x-wais-source", ["src"]), ("x-web-app-manifest+json", ["webapp"]),
    ("x-wlpg-detect", ["wlpginstall"]), ("x-wlpg3-detect", ["wlpginstall3"]),
    ("x-x509-ca-cert", ["cer", "crt", "der", "pem"]), ("x-xfig", ["fig"]), ("x-xliff+xml", ["xlf"]),
    ("x-xpinstall", ["xpi"]), ("x-xz", ["xz"]),
    ("x-zmachine", ["z1", "z2", "z3", "z4", "z5", "z6", "z7", "z8"]), ("xaml+xml", ["xaml"]),
    ("xcap-att+xml", ["xav"]), ("xcap-caps+xml", ["xca"]), ("xcap-diff+xml", ["xdf"]),
    ("xcap-el+xml", ["xel"]), ("xcap-ns+xml", ["xns"]), ("xenc+xml", ["xenc"]),
    ("xhtml+xml", ["xht", "xhtml"]), ("xml", ["asa", "asax", "ascx", "ashx", "asmx", "aspx",
    "config", "coverage", "datasource", "dgml", "filters", "generictest", "hxa", "hxc", "hxe",
    "hxf", "hxk", "hxv", "loadtest", "master", "mtx", "orderedtest", "psess", "rdlc", "resx", "rng",
    "ruleset", "settings", "sitemap", "skin", "snippet", "svc", "testrunconfig", "testsettings",
    "trx", "vcproj", "vcxproj", "vscontent", "vsmdi", "webtest", "wiq", "xmta", "xsc", "xss"]),
    ("xop+xml", ["xop"]), ("xproc+xml", ["xpl"]), ("xspf+xml", ["xspf"]),
    ("xv+xml", ["mxml", "xhvml", "xvm", "xvml"]), ("yang", ["yang"]), ("yin+xml", ["yin"]),
    ("zip", ["zip"])]

/-- The types behind `application/vnd.` -/
def vendor : List (String × List String) :=
  [("1000minds.decision-model+xml", ["1km"]), ("3gpp.pic-bw-large", ["plb"]),
    ("3gpp.pic-bw-small", ["psb"]), ("3gpp.pic-bw-var", ["pvb"]), ("3gpp2.tcap", ["tcap"]),
    ("3m.post-it-notes", ["pwn"]), ("accpac.simply.aso", ["aso"]), ("accpac.simply.imp", ["imp"]),
    ("acucobol", ["acu"]), ("acucorp", ["acutc", "atc"]),
    ("adobe.air-application-installer-package+zip", ["air"]), ("adobe.formscentral.fcdt", ["fcdt"]),
    ("adobe.fxp", ["fxp", "fxpl"]), ("adobe.xdp+xml", ["xdp"]), ("adobe.xfdf", ["xfdf"]),
    ("ahead.space", ["ahead"]), ("airzip.filesecure.azf", ["azf"]),
    ("airzip.filesecure.azs", ["azs"]), ("amazon.ebook", ["azw"]),
    ("americandynamics.acc", ["acc"]), ("amiga.ami", ["ami"]), ("android.package-archive", ["apk"]),
    ("anser-web-certificate-issue-initiation", ["cii"]),
    ("anser-web-funds-transfer-initiation", ["fti"]), ("antix.game-component", ["atx"]),
    ("apple.installer+xml", ["mpkg"]), ("apple.keynote", ["key", "keynote"]),
    ("apple.numbers", ["numbers"]), ("apple.pages", ["pages"]), ("apple.pkpass", ["pkpass"]),
    ("aristanetworks.swi", ["swi"]), ("astraea-software.iota", ["iota"]), ("audiograph", ["aep"]),
    ("balsamiq.bmml+xml", ["bmml"]), ("blueice.multipass", ["mpm"]), ("bmi", ["bmi"]),
    ("businessobjects", ["rep"]), ("chemdraw+xml", ["cdxml"]), ("chipnuts.karaoke-mmd", ["mmd"]),
    ("cinderella", ["cdy"]), ("citationstyles.style+xml", ["csl"]), ("claymore", ["cla"]),
    ("cloanto.rp9", ["rp9"]), ("clonk.c4group", ["c4d", "c4f", "c4g", "c4p", "c4u"]),
    ("cluetrust.cartomobile-config", ["c11amc"]), ("cluetrust.cartomobile-config-pkg", ["c11amz"]),
    ("commonspace", ["csp"]), ("contact.cmsg", ["cdbcmsg"]), ("cosmocaller", ["cmc"]),
    ("crick.clicker", ["clkx"]), ("crick.clicker.keyboard", ["clkk"]),
    ("crick.clicker.palette", ["clkp"]), ("crick.clicker.template", ["clkt"]),
    ("crick.clicker.wordbank", ["clkw"]), ("criticaltools.wbs+xml", ["wbs"]), ("cups-ppd", ["ppd"]),
    ("curl.car", ["car"]), ("curl.pcurl", ["pcurl"]), ("dart", ["dart"]),
    ("data-vision.rdz", ["rdz"]), ("dece.data", ["uvd", "uvf", "uvvd", "uvvf"]),
    ("dece.ttml+xml", ["uvt", "uvvt"]), ("dece.unspecified", ["uvvx", "uvx"]),
    ("dece.zip", ["uvvz", "uvz"]), ("denovo.fcselayout-link", ["fe_launch"]), ("dna", ["dna"]),
    ("dolby.mlp", ["mlp"]), ("dpgraph", ["dpg"]), ("dreamfactory", ["dfac"]),
    ("ds-keypoint", ["kpxx"]), ("dvb.ait", ["ait"]), ("dynageo", ["geo"]),
    ("ecowin.chart", ["mag"]), ("enliven", ["nml"]), ("epson.esf", ["esf"]), ("epson.msf", ["msf"]),
    ("epson.quickanime", ["qam"]), ("epson.salt", ["slt"]), ("epson.ssf", ["ssf"]),
    ("eszigno3+xml", ["es3", "et3"]), ("ezpix-album", ["ez2"]), ("ezpix-package", ["ez3"]),
    ("fdf", ["fdf"]), ("fdsn.mseed", ["mseed"]), ("fdsn.seed", ["dataless", "seed"]),
    ("flographit", ["gph"]), ("fluxtime.clip", ["ftc"]),
    ("framemaker", ["book", "fm", "frame", "maker"]), ("frogans.fnc", ["fnc"]),
    ("frogans.ltf", ["ltf"]), ("fsc.weblaunch", ["fsc"]), ("fujitsu.oasys", ["oas"]),
    ("fujitsu.oasys2", ["oa2"]), ("fujitsu.oasys3", ["oa3"]), ("fujitsu.oasysgp", ["fg5"]),
    ("fujitsu.oasysprs", ["bh2"]), ("fujixerox.ddd", ["ddd"]), ("fujixerox.docuworks", ["xdw"]),
    ("fujixerox.docuworks.binder", ["xbd"]), ("fuzzysheet", ["fzs"]), ("genomatix.tuxedo", ["txd"]),
    ("geogebra.file", ["ggb"]), ("geogebra.tool", ["ggt"]), ("geometry-explorer", ["gex", "gre"]),
    ("geonext", ["gxt"]), ("geoplan", ["g2w"]), ("geospace", ["g3w"]), ("gmx", ["gmx"]),
    ("google-apps.document", ["gdoc"]), ("google-apps.presentation", ["gslides"]),
    ("google-apps.spreadsheet", ["gsheet"]), ("google-earth.kml+xml", ["kml"]),
    ("google-earth.kmz", ["kmz"]), ("grafeq", ["gqf", "gqs"]), ("groove-account", ["gac"]),
    ("groove-help", ["ghf"]), ("groove-identity-message", ["gim"]), ("groove-injector", ["grv"]),
    ("groove-tool-message", ["gtm"]), ("groove-tool-template", ["tpl"]), ("groove-vcard", ["vcg"]),
    ("hal+xml", ["hal"]), ("handheld-entertainment+xml", ["zmm"]), ("hbci", ["hbci"]),
    ("hhe.lesson-player", ["les"]), ("hp-hpgl", ["hpgl"]), ("hp-hpid", ["hpid"]),
    ("hp-hps", ["hps"]), ("hp-jlyt", ["jlt"]), ("hp-pcl", ["pcl"]), ("hp-pclxl", ["pclxl"]),
    ("hydrostatix.sof-data", ["sfd-hdstx"]), ("ibm.minipay", ["mpy"]),
    ("ibm.modcap", ["afp", "list3820", "listafp"]), ("ibm.rights-management", ["irm"]),
    ("ibm.secure-container", ["sc"]), ("iccprofile", ["icc", "icm"]), ("igloader", ["igl"]),
    ("immervision-ivp", ["ivp"]), ("immervision-ivu", ["ivu"]), ("insors.igm", ["igm"]),
    ("intercon.formnet", ["xpw", "xpx"]), ("intergeo", ["i2g"]), ("intu.qbo", ["qbo"]),
    ("intu.qfx", ["qfx"]), ("ipunplugged.rcprofile", ["rcprofile"]),
    ("irepository.package+xml", ["irp"]), ("is-xpr", ["xpr"]), ("isac.fcs", ["fcs"]),
    ("jam", ["jam"]), ("jcp.javame.midlet-rms", ["rms"]), ("jisp", ["jisp"]),
    ("joost.joda-archive", ["joda"]), ("kahootz", ["ktr", "ktz"]), ("kde.karbon", ["karbon"]),
    ("kde.kchart", ["chrt"]), ("kde.kformula", ["kfo"]), ("kde.kivio", ["flw"]),
    ("kde.kontour", ["kon"]), ("kde.kpresenter", ["kpr", "kpt"]), ("kde.kspread", ["ksp"]),
    ("kde.kword", ["kwd", "kwt"]), ("kenameaapp", ["htke"]), ("kidspiration", ["kia"]),
    ("kinar", ["kne", "knp"]), ("koan", ["skd", "skm", "skt"]), ("kodak-descriptor", ["sse"]),
    ("las.las+xml", ["lasxml"]), ("llamagraphics.life-balance.desktop", ["lbd"]),
    ("llamagraphics.life-balance.exchange+xml", ["lbe"]), ("lotus-1-2-3", ["123"]),
    ("lotus-approach", ["apr"]), ("lotus-freelance", ["pre"]), ("lotus-notes", ["nsf"]),
    ("lotus-organizer", ["org"]), ("lotus-screencam", ["scm"]), ("lotus-wordpro", ["lwp"]),
    ("macports.portpkg", ["portpkg"]), ("mcd", ["mcd"]), ("medcalcdata", ["mc1"]),
    ("mediastation.cdkey", ["cdkey"]), ("mfer", ["mwf"]), ("mfmp", ["mfm"]),
    ("micrografx.flo", ["flo"]), ("micrografx.igx", ["igx"]), ("mif", ["mif"]),
    ("mobius.daf", ["daf"]), ("mobius.dis", ["dis"]), ("mobius.mbk", ["mbk"]),
    ("mobius.mqy", ["mqy"]), ("mobius.msl", ["msl"]), ("mobius.plc", ["plc"]),
    ("mobius.txf", ["txf"]), ("mophun.application", ["mpn"]), ("mophun.certificate", ["mpc"]),
    ("mozilla.xul+xml", ["xul"]), ("ms-artgalry", ["cil"]),
    ("ms-excel", ["slk", "xla", "xlc", "xld", "xlk", "xll", "xlm", "xls", "xlt", "xlw"]),
    ("ms-excel.addin.macroEnabled.12", ["xlam"]),
    ("ms-excel.sheet.binary.macroEnabled.12", ["xlsb"]),
    ("ms-excel.sheet.macroEnabled.12", ["xlsm"]), ("ms-excel.template.macroEnabled.12", ["xltm"]),
    ("ms-fontobject", ["eot"]), ("ms-ims", ["ims"]), ("ms-lrm", ["lrm"]),
    ("ms-mediapackage", ["mpf"]), ("ms-office.calx", ["calx"]), ("ms-officetheme", ["thmx"]),
    ("ms-outlook", ["msg", "pst"]), ("ms-pki.certstore", ["sst"]), ("ms-pki.pko", ["pko"]),
    ("ms-pki.seccat", ["cat"]), ("ms-pki.stl", ["stl"]),
    ("ms-powerpoint", ["pot", "ppa", "pps", "ppt", "pwz"]),
    ("ms-powerpoint.addin.macroEnabled.12", ["ppam"]),
    ("ms-powerpoint.presentation.macroEnabled.12", ["pptm"]),
    ("ms-powerpoint.slide.macroEnabled.12", ["sldm"]),
    ("ms-powerpoint.slideshow.macroEnabled.12", ["ppsm"]),
    ("ms-powerpoint.template.macroEnabled.12", ["potm"]), ("ms-project", ["mpp", "mpt"]),
    ("ms-visio.viewer", ["vdx"]), ("ms-word.document.macroEnabled.12", ["docm"]),
    ("ms-word.template.macroEnabled.12", ["dotm"]), ("ms-works", ["wcm", "wdb", "wks", "wps"]),
    ("ms-wpl", ["wpl"]), ("ms-xpsdocument", ["xps"]), ("mseq", ["mseq"]), ("musician", ["mus"]),
    ("muvee.style", ["msty"]), ("mynfc", ["taglet"]), ("neurolanguage.nlu", ["nlu"]),
    ("nitf", ["nitf", "ntf"]), ("noblenet-directory", ["nnd"]), ("noblenet-sealer", ["nns"]),
    ("noblenet-web", ["nnw"]), ("nokia.n-gage.data", ["ngdat"]),
    ("nokia.n-gage.symbian.install", ["n-gage"]), ("nokia.radio-preset", ["rpst"]),
    ("nokia.radio-presets", ["rpss"]), ("novadigm.edm", ["edm"]), ("novadigm.edx", ["edx"]),
    ("novadigm.ext", ["ext"]), ("oasis.opendocument.chart", ["odc"]),
    ("oasis.opendocument.chart-template", ["otc"]), ("oasis.opendocument.database", ["odb"]),
    ("oasis.opendocument.formula", ["odf"]), ("oasis.opendocument.formula-template", ["odft"]),
    ("oasis.opendocument.graphics", ["odg"]), ("oasis.opendocument.graphics-template", ["otg"]),
    ("oasis.opendocument.image", ["odi"]), ("oasis.opendocument.image-template", ["oti"]),
    ("oasis.opendocument.presentation", ["odp"]),
    ("oasis.opendocument.presentation-template", ["otp"]),
    ("oasis.opendocument.spreadsheet", ["ods"]),
    ("oasis.opendocument.spreadsheet-template", ["ots"]), ("oasis.opendocument.text", ["odt"]),
    ("oasis.opendocument.text-master", ["odm"]), ("oasis.opendocument.text-template", ["ott"]),
    ("oasis.opendocument.text-web", ["oth"]), ("olpc-sugar", ["xo"]), ("oma.dd2+xml", ["dd2"]),
    ("openblox.game+xml", ["obgx"]), ("openofficeorg.extension", ["oxt"]),
    ("openstreetmap.data+xml", ["osm"]),
    ("openxmlformats-officedocument.presentationml.presentation", ["pptx"]),
    ("openxmlformats-officedocument.presentationml.slide", ["sldx"]),
    ("openxmlformats-officedocument.presentationml.slideshow", ["ppsx"]),
    ("openxmlformats-officedocument.presentationml.template", ["potx"]),
    ("openxmlformats-officedocument.spreadsheetml.sheet", ["xlsx"]),
    ("openxmlformats-officedocument.spreadsheetml.template", ["xltx"]),
    ("openxmlformats-officedocument.wordprocessingml.document", ["docx"]),
    ("openxmlformats-officedocument.wordprocessingml.template", ["dotx"]),
    ("osgeo.mapguide.package", ["mgp"]), ("osgi.dp", ["dp"]), ("osgi.subsystem", ["esa"]),
    ("palm", ["oprc", "pdb", "pqa"]), ("pawaafile", ["paw"]), ("pg.format", ["str"]),
    ("pg.osasli", ["ei6"]), ("picsel", ["efif"]), ("pmi.widget", ["wg"]), ("pocketlearn", ["plf"]),
    ("powerbuilder6", ["pbd"]), ("previewsystems.box", ["box"]), ("proteus.magazine", ["mgz"]),
    ("publishare-delta-tree", ["qps"]), ("pvi.ptid1", ["ptid"]),
    ("quark.quarkxpress", ["qwd", "qwt", "qxb", "qxl", "qxt"]), ("realvnc.bed", ["bed"]),
    ("recordare.musicxml", ["mxl"]), ("recordare.musicxml+xml", ["musicxml"]),
    ("rig.cryptonote", ["cryptonote"]), ("rn-realmedia", ["rm"]), ("rn-realmedia-vbr", ["rmvb"]),
    ("rn-rn_music_package", ["rmp"]), ("route66.link66+xml", ["link66"]),
    ("sailingtracker.track", ["st"]), ("seemail", ["see"]), ("sema", ["sema"]), ("semd", ["semd"]),
    ("semf", ["semf"]), ("shana.informed.formdata", ["ifm"]),
    ("shana.informed.formtemplate", ["itp"]), ("shana.informed.interchange", ["iif"]),
    ("shana.informed.package", ["ipk"]), ("simtech-mindmapper", ["twd", "twds"]),
    ("smart.teacher", ["teacher"]), ("software602.filler.form+xml", ["fo"]),
    ("solent.sdkm+xml", ["sdkd", "sdkm"]), ("spotfire.dxp", ["dxp"]), ("spotfire.sfs", ["sfs"]),
    ("stardivision.calc", ["sdc"]), ("stardivision.draw", ["sda"]),
    ("stardivision.impress", ["sdd"]), ("stardivision.math", ["smf"]),
    ("stardivision.writer", ["sdw", "vor"]), ("stardivision.writer-global", ["sgl"]),
    ("stepmania.package", ["smzip"]), ("stepmania.stepchart", ["sm"]), ("sun.wadl+xml", ["wadl"]),
    ("sun.xml.calc", ["sxc"]), ("sun.xml.calc.template", ["stc"]), ("sun.xml.draw", ["sxd"]),
    ("sun.xml.draw.template", ["std"]), ("sun.xml.impress", ["sxi"]),
    ("sun.xml.impress.template", ["sti"]), ("sun.xml.math", ["sxm"]), ("sun.xml.writer", ["sxw"]),
    ("sun.xml.writer.global", ["sxg"]), ("sun.xml.writer.template", ["stw"]),
    ("sus-calendar", ["sus", "susp"]), ("svd", ["svd"]), ("symbian.install", ["sis", "sisx"]),
    ("syncml+xml", ["xsm"]), ("syncml.dm+wbxml", ["bdm"]), ("syncml.dm+xml", ["xdm"]),
    ("syncml.dmddf+xml", ["ddf"]), ("tao.intent-module-archive", ["tao"]),
    ("tcpdump.pcap", ["cap", "dmp", "pcap"]), ("tmobile-livetv", ["tmo"]), ("trid.tpt", ["tpt"]),
    ("triscape.mxs", ["mxs"]), ("trueapp", ["tra"]), ("ufdl", ["ufd", "ufdl"]),
    ("uiq.theme", ["utz"]), ("umajin", ["umj"]), ("unity", ["unityweb"]), ("uoml+xml", ["uoml"]),
    ("vcx", ["vcx"]), ("visio", ["vsd", "vss", "vst", "vsw", "vsx", "vtx"]), ("visionary", ["vis"]),
    ("vsf", ["vsf"]), ("wap.wbxml", ["wbxml"]), ("wap.wmlc", ["wmlc"]),
    ("wap.wmlscriptc", ["wmlsc"]), ("webturbo", ["wtb"]), ("wolfram.player", ["nbp"]),
    ("wordperfect", ["wpd"]), ("wqd", ["wqd"]), ("wt.stf", ["stf"]), ("xara", ["xar"]),
    ("xfdl", ["xfdl"]), ("yamaha.hv-dic", ["hvd"]), ("yamaha.hv-script", ["hvs"]),
    ("yamaha.hv-voice", ["hvp"]), ("yamaha.openscoreformat", ["osf"]),
    ("yamaha.openscoreformat.osfpvg+xml", ["osfpvg"]), ("yamaha.smaf-audio", ["saf"]),
    ("yamaha.smaf-phrase", ["spf"]), ("yellowriver-custom-menu", ["cmp"]), ("zul", ["zir", "zirz"]),
    ("zzazz.deck+xml", ["zaz"])]

/-- The types behind `audio/`. -/
def audio : List (String × List String) :=
  [("aac", ["aac", "adts"]), ("ac3", ["ac3"]), ("aiff", ["aif", "aifc", "aiff", "cdda"]),
    ("annodex", ["axa"]), ("audible", ["aa"]), ("basic", ["au", "snd"]), ("flac", ["flac"]),
    ("m4a", ["m4a"]), ("m4b", ["m4b"]), ("m4p", ["m4p"]), ("mid", ["mid", "midi", "rmi"]),
    ("midi", ["kar"]), ("mobile-xmf", ["mxmf"]), ("mp4", ["mp4a"]),
    ("mpeg", ["m2a", "m3a", "mp2a", "mp3", "mpga"]), ("ogg", ["oga", "ogg", "opus", "spx"]),
    ("s3m", ["s3m"]), ("scpls", ["pls"]), ("silk", ["sil"]), ("vnd.audible.aax", ["aax"]),
    ("vnd.dece.audio", ["uva", "uvva"]), ("vnd.digital-winds", ["eol"]), ("vnd.dlna.adts", ["adt"]),
    ("vnd.dra", ["dra"]), ("vnd.dts", ["dts"]), ("vnd.dts.hd", ["dtshd"]),
    ("vnd.lucent.voice", ["lvp"]), ("vnd.ms-playready.media.pya", ["pya"]),
    ("vnd.nuera.ecelp4800", ["ecelp4800"]), ("vnd.nuera.ecelp7470", ["ecelp7470"]),
    ("vnd.nuera.ecelp9600", ["ecelp9600"]), ("vnd.rip", ["rip"]), ("wav", ["wav", "wave"]),
    ("webm", ["weba"]), ("x-caf", ["caf"]), ("x-gsm", ["gsm"]), ("x-m4r", ["m4r"]),
    ("x-matroska", ["mka"]), ("x-mpegurl", ["m3u", "m3u8"]), ("x-ms-wax", ["wax"]),
    ("x-ms-wma", ["wma"]), ("x-pn-realaudio", ["ra", "ram"]), ("x-pn-realaudio-plugin", ["rpm"]),
    ("x-sd2", ["sd2"]), ("x-smd", ["smd", "smx", "smz"]), ("xm", ["xm"])]

/-- The types behind `image/`. -/
def image : List (String × List String) :=
  [("aces", ["exr"]), ("apng", ["apng"]), ("avif", ["avif"]), ("avif-sequence", ["avifs"]),
    ("bmp", ["bmp", "dib"]), ("cgm", ["cgm"]), ("cis-cod", ["cod"]), ("dicom-rle", ["drle"]),
    ("fits", ["fits"]), ("g3fax", ["g3"]), ("gif", ["gif"]), ("heic", ["heic"]),
    ("heic-sequence", ["heics"]), ("heif", ["heif"]), ("heif-sequence", ["heifs"]),
    ("hej2k", ["hej2"]), ("hsj2", ["hsj2"]), ("ief", ["ief"]), ("jls", ["jls"]),
    ("jp2", ["jp2", "jpg2"]), ("jpeg", ["jpe", "jpeg", "jpg"]), ("jph", ["jph"]), ("jphc", ["jhc"]),
    ("jpx", ["jpf", "jpx"]), ("jxl", ["jxl"]), ("jxr", ["jxr"]), ("jxra", ["jxra"]),
    ("jxrs", ["jxrs"]), ("jxs", ["jxs"]), ("jxsc", ["jxsc"]), ("jxsi", ["jxsi"]),
    ("jxss", ["jxss"]), ("ktx", ["ktx"]), ("ktx2", ["ktx2"]), ("pict", ["pct", "pic", "pict"]),
    ("pjpeg", ["jfif"]), ("png", ["png", "pnz"]), ("prs.btif", ["btif"]), ("prs.pti", ["pti"]),
    ("sgi", ["sgi"]), ("svg+xml", ["svg", "svgz"]), ("t38", ["t38"]), ("tiff", ["tif", "tiff"]),
    ("tiff-fx", ["tfx"]), ("vnd.airzip.accelerator.azv", ["azv"]),
    ("vnd.dece.graphic", ["uvg", "uvi", "uvvg", "uvvi"]), ("vnd.djvu", ["djv", "djvu"]),
    ("vnd.dvb.subtitle", ["sub"]), ("vnd.fastbidsheet", ["fbs"]), ("vnd.fpx", ["fpx"]),
    ("vnd.fst", ["fst"]), ("vnd.fujixerox.edmics-mmr", ["mmr"]),
    ("vnd.fujixerox.edmics-rlc", ["rlc"]), ("vnd.ms-dds", ["dds"]), ("vnd.ms-modi", ["mdi"]),
    ("vnd.ms-photo", ["wdp"]), ("vnd.net-fpx", ["npx"]), ("vnd.rn-realflash", ["rf"]),
    ("vnd.tencent.tap", ["tap"]), ("vnd.valve.source.texture", ["vtf"]), ("vnd.wap.wbmp", ["wbmp"]),
    ("vnd.xiff", ["xif"]), ("webp", ["webp"]), ("x-3ds", ["3ds"]), ("x-cmu-raster", ["ras"]),
    ("x-cmx", ["cmx"]), ("x-freehand", ["fh", "fh4", "fh5", "fh7", "fhc"]), ("x-icon", ["ico"]),
    ("x-jg", ["art"]), ("x-jng", ["jng"]), ("x-macpaint", ["mac", "pnt", "pntg"]),
    ("x-mrsid-image", ["sid"]), ("x-portable-anymap", ["pnm"]), ("x-portable-bitmap", ["pbm"]),
    ("x-portable-graymap", ["pgm"]), ("x-portable-pixmap", ["ppm"]),
    ("x-quicktime", ["qti", "qtif"]), ("x-rgb", ["rgb"]), ("x-tga", ["tga"]),
    ("x-xbitmap", ["xbm"]), ("x-xpixmap", ["xpm"]), ("x-xwindowdump", ["xwd"])]

/-- The types behind `text/`. -/
def text : List (String × List String) :=
  [("cache-manifest", ["appcache"]), ("calendar", ["ics", "ifb"]),
    ("coffeescript", ["coffee", "litcoffee"]), ("css", ["css"]), ("csv", ["csv"]), ("dlm", ["dlm"]),
    ("h323", ["323"]), ("html", ["htm", "html", "hxt", "shtml"]), ("iuls", ["uls"]),
    ("jade", ["jade"]), ("javascript", ["js", "mjs"]), ("jscript", ["jsx"]), ("less", ["less"]),
    ("markdown", ["markdown", "md"]), ("mathml", ["mml"]), ("mdx", ["mdx"]), ("n3", ["n3"]),
    ("plain", ["asm", "bas", "c", "cc", "cd", "cfg", "cmd", "cnf", "conf", "cpp", "cs", "csdproj",
    "csproj", "cxx", "dbproj", "def", "dsw", "h", "hpp", "hxx", "i", "idl", "in", "inc", "ini",
    "inl", "ipproj", "jsxbin", "list", "log", "lst", "mak", "map", "mk", "odh", "odl", "pkgdef",
    "pkgundef", "rc", "rc2", "rct", "reg", "rgs", "s", "scr", "sln", "sol", "sor", "srf", "text",
    "tlh", "tli", "txt", "user", "vb", "vbdproj", "vbproj", "vcs", "vddproj", "vdp", "vdproj",
    "vspscc", "vsscc", "vssscc", "xdr", "xoml"]), ("prs.lines.tag", ["dsc"]), ("richtext", ["rtx"]),
    ("scriptlet", ["sct", "wsc"]), ("sgml", ["sgm", "sgml"]), ("shex", ["shex"]),
    ("slim", ["slim", "slm"]), ("spdx", ["spdx"]), ("stylus", ["styl", "stylus"]),
    ("tab-separated-values", ["tsv"]), ("turtle", ["ttl"]), ("uri-list", ["uri", "uris", "urls"]),
    ("vbscript", ["vbs"]), ("vcard", ["vcard"]), ("vnd.curl", ["curl"]),
    ("vnd.curl.dcurl", ["dcurl"]), ("vnd.curl.mcurl", ["mcurl"]), ("vnd.curl.scurl", ["scurl"]),
    ("vnd.fly", ["fly"]), ("vnd.fmi.flexstor", ["flx"]), ("vnd.graphviz", ["gv"]),
    ("vnd.in3d.3dml", ["3dml"]), ("vnd.in3d.spot", ["spot"]),
    ("vnd.sun.j2me.app-descriptor", ["jad"]), ("vnd.wap.wml", ["wml"]),
    ("vnd.wap.wmlscript", ["wmls"]), ("vtt", ["vtt"]), ("webviewhtml", ["htt"]),
    ("x-c", ["dic", "hh"]), ("x-component", ["htc"]), ("x-fortran", ["f", "f77", "f90", "for"]),
    ("x-handlebars-template", ["hbs"]), ("x-hdml", ["hdml"]), ("x-html-insertion", ["qht", "qhtm"]),
    ("x-lua", ["lua"]), ("x-markdown", ["mkd"]), ("x-ms-contact", ["contact"]),
    ("x-ms-group", ["group"]), ("x-ms-iqy", ["iqy"]), ("x-ms-rqy", ["rqy"]), ("x-nfo", ["nfo"]),
    ("x-opml", ["opml"]), ("x-pascal", ["p", "pas"]), ("x-processing", ["pde"]), ("x-rust", ["rs"]),
    ("x-sass", ["sass"]), ("x-scss", ["scss"]), ("x-setext", ["etx"]), ("x-sfv", ["sfv"]),
    ("x-suse-ymp", ["ymp"]), ("x-toml", ["toml"]), ("x-uuencode", ["uu"]), ("x-vcard", ["vcf"]),
    ("x-yaml", ["yaml", "yml"]), ("xml", ["addin", "disco", "dtd", "dtsconfig", "mno",
    "ssisdeploymentmanifest", "vml", "vsct", "vsixlangpack", "vsixmanifest", "vssettings",
    "vstemplate", "wsdl", "xml", "xrm-ms", "xsd", "xsf", "xsl", "xslt"])]

/-- The types behind `video/`. -/
def video : List (String × List String) :=
  [("3gpp", ["3gp", "3gpp"]), ("3gpp2", ["3g2", "3gp2"]), ("annodex", ["axv"]), ("divx", ["divx"]),
    ("h261", ["h261"]), ("h263", ["h263"]), ("h264", ["h264"]), ("iso.segment", ["m4s"]),
    ("jpeg", ["jpgv"]), ("jpm", ["jpgm", "jpm"]), ("mj2", ["mj2", "mjp2"]),
    ("mp4", ["mp4", "mp4v", "mpg4"]),
    ("mpeg", ["m1v", "m2v", "mod", "mp2", "mp2v", "mpa", "mpe", "mpeg", "mpg", "mpv2", "vbk"]),
    ("ogg", ["ogv"]), ("quicktime", ["mov", "mqv", "qt"]), ("vnd.dece.hd", ["uvh", "uvvh"]),
    ("vnd.dece.mobile", ["uvm", "uvvm"]), ("vnd.dece.pd", ["uvp", "uvvp"]),
    ("vnd.dece.sd", ["uvs", "uvvs"]), ("vnd.dece.video", ["uvv", "uvvv"]),
    ("vnd.dlna.mpeg-tts", ["m2t", "m2ts", "mts", "ts", "tts"]), ("vnd.dvb.file", ["dvb"]),
    ("vnd.fvt", ["fvt"]), ("vnd.mpegurl", ["m4u", "mxu"]), ("vnd.ms-playready.media.pyv", ["pyv"]),
    ("vnd.uvvu.mp4", ["uvu", "uvvu"]), ("vnd.vivo", ["viv"]), ("webm", ["webm"]),
    ("x-dv", ["dif", "dv"]), ("x-f4v", ["f4v"]), ("x-fli", ["fli"]), ("x-flv", ["flv"]),
    ("x-ivf", ["ivf"]), ("x-la-asf", ["lsf", "lsx"]), ("x-m4v", ["m4v"]),
    ("x-matroska", ["mks", "mkv"]), ("x-matroska-3d", ["mk3d"]), ("x-mng", ["mng"]),
    ("x-ms-asf", ["asf", "asr", "asx", "nsc"]), ("x-ms-vob", ["vob"]), ("x-ms-wm", ["wm"]),
    ("x-ms-wmp", ["wmp"]), ("x-ms-wmv", ["wmv"]), ("x-ms-wmx", ["wmx"]), ("x-ms-wvx", ["wvx"]),
    ("x-msvideo", ["avi"]), ("x-sgi-movie", ["movie"]), ("x-smv", ["smv"])]

/-- All other types, as a whole. -/
def others : List (String × List String) :=
  [("chemical/x-cdx", ["cdx"]), ("chemical/x-cif", ["cif"]), ("chemical/x-cmdf", ["cmdf"]),
    ("chemical/x-cml", ["cml"]), ("chemical/x-csml", ["csml"]), ("chemical/x-xyz", ["xyz"]),
    ("drawing/x-dwf", ["dwf"]), ("font/collection", ["ttc"]), ("font/otf", ["otf"]),
    ("font/ttf", ["ttf"]), ("font/woff", ["woff"]), ("font/woff2", ["woff2"]),
    ("message/disposition-notification", ["disposition-notification"]),
    ("message/global", ["u8msg"]), ("message/global-delivery-status", ["u8dsn"]),
    ("message/global-disposition-notification", ["u8mdn"]), ("message/global-headers", ["u8hdr"]),
    ("message/rfc822", ["eml", "mht", "mhtml", "mime", "nws"]), ("model/3mf", ["3mf"]),
    ("model/gltf+json", ["gltf"]), ("model/gltf-binary", ["glb"]), ("model/iges", ["iges", "igs"]),
    ("model/mesh", ["mesh", "msh", "silo"]), ("model/mtl", ["mtl"]),
    ("model/vnd.collada+xml", ["dae"]), ("model/vnd.gdl", ["gdl"]), ("model/vnd.gtw", ["gtw"]),
    ("model/vnd.opengex", ["ogex"]), ("model/vnd.parasolid.transmit.binary", ["x_b"]),
    ("model/vnd.parasolid.transmit.text", ["x_t"]), ("model/vnd.usdz+zip", ["usdz"]),
    ("model/vnd.valve.source.compiled-map", ["bsp"]), ("model/vnd.vtu", ["vtu"]),
    ("model/vrml", ["vrml"]), ("model/x3d+binary", ["x3db", "x3dbz"]),
    ("model/x3d+vrml", ["x3dv", "x3dvz"]), ("model/x3d+xml", ["x3d", "x3dz"]),
    ("x-conference/x-cooltalk", ["ice"]), ("x-world/x-vrml", ["flr", "wrl", "wrz", "xaf", "xof"])]

/-- The fronts of types, what there is behind each of them, and the extensions that tell it. -/
def families : List (String × List (String × List String)) :=
  [("application/", application), ("application/vnd.", vendor), ("audio/", audio),
    ("image/", image), ("text/", text), ("video/", video), ("", others)]

/-- The types that are told by extensions. -/
def table : List (String × String) :=
  families.flatMap fun (front, types) =>
    types.flatMap fun (rest, extensions) => extensions.map fun e => (e, front ++ rest)

/-! ### Types of files -/

/-- The type of just bytes. -/
def bytes : String := "application/octet-stream"

/-- The extension of a name: what is behind its last dot, unless nothing is in front of it. -/
def extension? (name : List Char) : Option (List Char) :=
  match name.reverse.span (· ≠ '.') with
  | (behind, _ :: front) => if front.isEmpty then none else some behind.reverse
  | (_, []) => none

/-- A character without its case.  Ligatures and old forms of letters are the letters that they stand
for. -/
def folded : Char → List Char
  | '\u00df' | '\u1e9e' => ['s', 's']
  | '\u017f' => ['s']
  | '\u212a' => ['k']
  | '\ufb00' => ['f', 'f']
  | '\ufb01' => ['f', 'i']
  | '\ufb02' => ['f', 'l']
  | '\ufb03' => ['f', 'f', 'i']
  | '\ufb04' => ['f', 'f', 'l']
  | '\ufb05' | '\ufb06' => ['s', 't']
  | c => [c.toLower]

/-- The type of a file. -/
def ofName (name : String) : String :=
  match extension? name.toList with
  | none => bytes
  | some e => (table.lookup (String.ofList (e.flatMap folded))).getD bytes

/-- Whether contents of a type may be compressed: pictures are compressed already, drawings apart, and
some streams have to arrive as they are written. -/
def isCompressible (type : String) : Bool :=
  let startsWith (front : String) : Bool := front.toList.isPrefixOf type.toList
  (type == "image/svg+xml" || !startsWith "image/") && !startsWith "application/grpc" &&
    !startsWith "text/event-stream"

end DnsConsole.Http.ContentType
