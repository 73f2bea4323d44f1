import SupvanCups.ModelTable

/-!
# The shipped model table

The families, the USB models and the advertised-name prefixes that come with
the program.
-/

namespace SupvanCups

def shippedFamilies : List FamilyToml :=
  [⟨"supvan_t50", "Supvan T50 Series"⟩,
   ⟨"supvan_t80", "Supvan T80 Series"⟩,
   ⟨"supvan_g", "Supvan G Series"⟩,
   ⟨"supvan_tp76", "Supvan TP76 Series"⟩,
   ⟨"supvan_tp80", "Supvan TP80 Series"⟩,
   ⟨"supvan_tp86", "Supvan TP86 Series"⟩,
   ⟨"supvan_sp650", "Supvan SP650"⟩]

def shippedUsbModels : List ModelToml :=
  [⟨"2072", "T50M", "supvan_t50"⟩,
   ⟨"2073", "T50M Pro", "supvan_t50"⟩,
   ⟨"2074", "T50M Plus", "supvan_t50"⟩,
   ⟨"2076", "T50s", "supvan_t50"⟩,
   ⟨"2077", "T50s Pro", "supvan_t50"⟩,
   ⟨"2075", "T80M", "supvan_t80"⟩,
   ⟨"207a", "T80M Pro", "supvan_t80"⟩,
   ⟨"2090", "G11", "supvan_g"⟩,
   ⟨"2091", "G15", "supvan_g"⟩,
   ⟨"2092", "G18", "supvan_g"⟩,
   ⟨"2093", "G18 Pro", "supvan_g"⟩,
   ⟨"202c", "TP76I", "supvan_tp76"⟩,
   ⟨"2087", "TP76I Pro", "supvan_tp76"⟩,
   ⟨"202e", "TP80A", "supvan_tp80"⟩,
   ⟨"2080", "TP80A Pro", "supvan_tp80"⟩,
   ⟨"202f", "TP86A", "supvan_tp86"⟩,
   ⟨"2081", "TP86A Pro", "supvan_tp86"⟩,
   ⟨"203e", "SP650", "supvan_sp650"⟩]

def shippedBtNames : List BtNameToml :=
  [⟨"T50A", "supvan_t50", ["t50a", "t0013a", "t0020a", "t0121a"]⟩,
   ⟨"T50M", "supvan_t50", ["t50m", "t0021a", "t0022a", "t0104a"]⟩,
   ⟨"T50M Plus", "supvan_t50", ["t0021b", "t0102b", "t0103b", "t0116b"]⟩,
   ⟨"T50M Pro", "supvan_t50",
      ["t0096a", "t0117a", "t0118a", "t0129a", "t0147b", "t0148b", "t0162b",
       "t0163b", "t0170b", "t0178b", "t0205", "t0211b", "t0212b", "t0213b"]⟩,
   ⟨"T50 Plus", "supvan_t50", ["t0013b", "t0020b"]⟩,
   ⟨"T50 Pro", "supvan_t50",
      ["t0046a", "t0100a", "t0112a", "t0113a", "t0145b", "t0149b", "t0150b",
       "t0151b", "t0152b", "t0159b", "t0160b", "t0200", "t0201", "t0202"]⟩,
   ⟨"T50 Max", "supvan_t50", ["t0192", "t0204"]⟩,
   ⟨"T50S", "supvan_t50", ["t50s", "t0099a"]⟩,
   ⟨"E10/T10", "supvan_t50",
      ["e10", "t10", "t0007", "t0010", "t0011", "t0012", "t0017", "t0025",
       "t0026", "t0027", "t0028", "t0034", "t0035", "t0036", "t0037",
       "t0038", "t0039", "t0040", "t0041", "t0042", "t0043", "t0044",
       "t0045", "t0057", "t0058", "t0059", "t0060", "t0061", "t0064",
       "t0065", "t0066", "t0067", "t0068", "t0071", "t0072", "t0073",
       "t0075", "t0077", "t0078", "t0081", "t0082", "t0083", "t0084",
       "t0085", "t0086", "t0087", "t0088", "t0089", "t0090", "t0091",
       "t0092", "t0093", "t0094", "t0095", "t0098", "t0124", "t0125",
       "t0126", "t0127", "t0130", "t0131", "t0132", "t0133", "t0134",
       "t0135", "t0136", "t0137", "t0143", "t0144", "t0176", "t0177",
       "t0179", "t0180", "t0207", "t0208", "t0209", "t0210", "t0001",
       "t0002", "t0003", "t0004", "t0005", "t0006", "t0008", "t0009",
       "t0017", "t0032", "t0070", "t0071", "t0072", "t0073", "t0074",
       "t0075", "t0076", "t0077", "t0124", "t0125", "t0126", "t0127", "t0140"]⟩,
   ⟨"E11", "supvan_t50",
      ["e11", "t0138", "t0139", "t0181", "t0182", "t0183", "t0184", "t0216",
       "t0217", "t0218", "t0219"]⟩,
   ⟨"E12", "supvan_t50",
      ["e12", "t0187", "t0188", "t0189", "t0190", "t0194", "t0195", "t0196",
       "t0197"]⟩,
   ⟨"E16/T16", "supvan_t50",
      ["e16", "t16", "t0053", "t0054", "t0055", "t0105", "t0106", "t0107",
       "t0122", "t0123", "t0047", "t0052"]⟩,
   ⟨"T80S", "supvan_t80", ["t80s", "t0033a", "t0175a"]⟩,
   ⟨"T80M", "supvan_t80", ["t80m", "t0111a"]⟩,
   ⟨"T80M Pro", "supvan_t80", ["t0173", "t0174"]⟩,
   ⟨"T80 Pro", "supvan_t80", ["t0171", "t0186"]⟩,
   ⟨"T80 Max", "supvan_t80", ["t0193"]⟩,
   ⟨"G11", "supvan_g", ["g11", "g0022a"]⟩,
   ⟨"G11M", "supvan_g", ["g11m", "g0023a", "g0025a"]⟩,
   ⟨"G11 Pro", "supvan_g", ["g0028a", "g0028b", "g0049"]⟩,
   ⟨"G15", "supvan_g", ["g15", "g0013a", "g0014", "g0003a"]⟩,
   ⟨"G15M", "supvan_g", ["g15m", "g0004", "g0017a", "g0061", "g0070"]⟩,
   ⟨"G15M Pro", "supvan_g",
      ["g0018a", "g0018b", "g0046a", "g0047a", "g0048a", "g0062"]⟩,
   ⟨"G15 Pro", "supvan_g", ["g0015a", "g0015b", "g0016", "g0069"]⟩,
   ⟨"G18", "supvan_g", ["g18", "g0041a"]⟩,
   ⟨"G18 Pro", "supvan_g", ["g0042a", "g0042b", "g0044", "g0050"]⟩,
   ⟨"TP76I", "supvan_tp76", ["tp76"]⟩,
   ⟨"TP80A", "supvan_tp80", ["tp80"]⟩,
   ⟨"TP86A", "supvan_tp86", ["tp86"]⟩,
   ⟨"SP650", "supvan_sp650", ["sp650"]⟩]

/-- The table baked into the program. -/
def embeddedModels : ModelsToml where
  families := shippedFamilies
  models := shippedUsbModels
  btNames := shippedBtNames

/-- Every family that the shipped table refers to is one it defines. -/
theorem embeddedModels_closed : embeddedModels.Closed where
  defaultFamily := by decide
  models := by decide
  btNames := by decide

end SupvanCups
