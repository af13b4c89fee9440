import QueryTree.Text.CodeTable

/-! # The direction of writing

Letters are written to the right unless they are of a script that is written to the left. Numbers
have directions of their own, and all other characters go with what stands around them. -/

namespace QueryTree.Text

inductive Direction where
  | rightward
  | leftward
  | number
  | arabicNumber
  | neutral
  | mark
  deriving DecidableEq

namespace Direction

def ofText (text : List Char) : Direction :=
  if text = ['r'] then leftward
  else if text = ['e', 'n'] then number
  else if text = ['a', 'n'] then arabicNumber
  else if text = ['o', 'n'] then neutral
  else if text = ['n', 's', 'm'] then mark
  else rightward

/-- The characters that are not written to the right, blanks and directions left out. -/
def table : CodeTable Direction := .ofText ofText
  "0-8=on e-1b=on 21-2f=on 30-39=en 3a-40=on 5b-60=on 7b-7f=on a1-a7=on a9=on ab-ac=on ae=on
   b0-b1=on b6-b7=on bb=on bf=on d7=on f7=on 2b9-2ba=on 2c2-2cf=on 2d2-2d7=on 2de-2df=on
   2e5-2ed=on 2ef-2ff=on 300-33f=nsm 342=nsm 346-34e=nsm 350-36f=nsm 375=on 3f6=on 483-489=nsm
   58a=on 58d-58f=on 591-5bd=nsm 5be=r 5bf=nsm 5c0=r 5c1-5c2=nsm 5c3=r 5c4-5c5=nsm 5c6=r 5c7=nsm
   5d0-5ea=r 5ef-5f4=r 606-607=on 608=r 609-60a=on 60b=r 60c=on 60d=r 60e-60f=on 610-61a=nsm
   61b=r 61d-64a=r 64b-65f=nsm 660-669=an 66a=on 66b-66c=an 66d-66f=r 670=nsm 671-674=r 679-6d5=r
   6d6-6dc=nsm 6de=on 6df-6e4=nsm 6e5-6e6=r 6e7-6e8=nsm 6e9=on 6ea-6ed=nsm 6ee-6ef=r 6f0-6f9=en
   6fa-70d=r 710=r 711=nsm 712-72f=r 730-74a=nsm 74d-7a5=r 7a6-7b0=nsm 7b1=r 7c0-7ea=r
   7eb-7f3=nsm 7f4-7f5=r 7f6-7f9=on 7fa=r 7fd=nsm 7fe-815=r 816-819=nsm 81a=r 81b-823=nsm 824=r
   825-827=nsm 828=r 829-82d=nsm 830-83e=r 840-858=r 859-85b=nsm 85e=r 860-86a=r 870-88f=r
   897-89f=nsm 8a0-8c9=r 8ca-8e1=nsm 8e3-902=nsm 93a=nsm 93c=nsm 941-948=nsm 94d=nsm 951-957=nsm
   962-963=nsm 981=nsm 9bc=nsm 9c1-9c4=nsm 9cd=nsm 9e2-9e3=nsm 9f2-9f3=on 9fb=on 9fe=nsm
   a01-a02=nsm a3c=nsm a41-a42=nsm a47-a48=nsm a4b-a4d=nsm a51=nsm a70-a71=nsm a75=nsm
   a81-a82=nsm abc=nsm ac1-ac5=nsm ac7-ac8=nsm acd=nsm ae2-ae3=nsm af1=on afa-aff=nsm b01=nsm
   b3c=nsm b3f=nsm b41-b44=nsm b4d=nsm b55-b56=nsm b62-b63=nsm b82=nsm bc0=nsm bcd=nsm bf3-bfa=on
   c00=nsm c04=nsm c3c=nsm c3e-c40=nsm c46-c48=nsm c4a-c4d=nsm c55-c56=nsm c62-c63=nsm c78-c7e=on
   c81=nsm cbc=nsm ccc-ccd=nsm ce2-ce3=nsm d00-d01=nsm d3b-d3c=nsm d41-d44=nsm d4d=nsm
   d62-d63=nsm d81=nsm dca=nsm dd2-dd4=nsm dd6=nsm e31=nsm e34-e3a=nsm e3f=on e47-e4e=nsm eb1=nsm
   eb4-ebc=nsm ec8-ece=nsm f18-f19=nsm f35=nsm f37=nsm f39=nsm f3a-f3d=on f71-f72=nsm f74=nsm
   f7a-f7e=nsm f80=nsm f82-f84=nsm f86-f87=nsm f8d-f92=nsm f94-f97=nsm f99-f9c=nsm f9e-fa1=nsm
   fa3-fa6=nsm fa8-fab=nsm fad-fb8=nsm fba-fbc=nsm fc6=nsm 102d-1030=nsm 1032-1037=nsm
   1039-103a=nsm 103d-103e=nsm 1058-1059=nsm 105e-1060=nsm 1071-1074=nsm 1082=nsm 1085-1086=nsm
   108d=nsm 109d=nsm 135d-135f=nsm 1390-1399=on 1400=on 169b-169c=on 1712-1714=nsm 1732-1733=nsm
   1752-1753=nsm 1772-1773=nsm 17b7-17bd=nsm 17c6=nsm 17c9-17d3=nsm 17db=on 17dd=nsm 17f0-17f9=on
   1800-180a=on 1885-1886=nsm 18a9=nsm 1920-1922=nsm 1927-1928=nsm 1932=nsm 1939-193b=nsm 1940=on
   1944-1945=on 19de-19ff=on 1a17-1a18=nsm 1a1b=nsm 1a56=nsm 1a58-1a5e=nsm 1a60=nsm 1a62=nsm
   1a65-1a6c=nsm 1a73-1a7c=nsm 1a7f=nsm 1ab0-1add=nsm 1ae0-1aeb=nsm 1b00-1b03=nsm 1b34=nsm
   1b36-1b3a=nsm 1b3c=nsm 1b42=nsm 1b6b-1b73=nsm 1b80-1b81=nsm 1ba2-1ba5=nsm 1ba8-1ba9=nsm
   1bab-1bad=nsm 1be6=nsm 1be8-1be9=nsm 1bed=nsm 1bef-1bf1=nsm 1c2c-1c33=nsm 1c36-1c37=nsm
   1cd0-1cd2=nsm 1cd4-1ce0=nsm 1ce2-1ce8=nsm 1ced=nsm 1cf4=nsm 1cf8-1cf9=nsm 1dc0-1dff=nsm
   200c-200d=on 2010=on 2012-2016=on 2018-2023=on 2027=on 2030-2032=on 2035=on 2038-203b=on
   203d=on 203f-2046=on 204a-2056=on 2058-205e=on 20a0-20a7=on 20a9-20c1=on 20d0-20f0=nsm 2104=on
   2108=on 2114=on 2117-2118=on 211e-211f=on 2123=on 2125=on 2127=on 2129=on 212e=on 213a=on
   2141-2144=on 214a-214d=on 218a-218b=on 2190-222b=on 222e=on 2231-2328=on 232b-2335=on
   237b-2394=on 2396-2429=on 2440-244a=on 24eb-26ab=on 26ad-27ff=on 2900-2a0b=on 2a0d-2a73=on
   2a77-2adb=on 2add-2b73=on 2b76-2bff=on 2ce5-2cea=on 2cef-2cf1=nsm 2cf9-2cff=on 2d7f=nsm
   2de0-2dff=nsm 2e00-2e5d=on 2e80-2e99=on 2e9b-2e9e=on 2ea0-2ef2=on 3001=on 3003-3004=on
   3008-3020=on 302a-302d=nsm 3030=on 3037=on 303d-303f=on 3099-309a=nsm 30a0=on 30fb=on
   31c0-31e5=on 4dc0-4dff=on a490-a4c6=on a60d-a60f=on a66f-a672=nsm a673=on a674-a67d=nsm
   a67e-a67f=on a69e-a69f=nsm a6f0-a6f1=nsm a700-a721=on a788=on a802=nsm a806=nsm a80b=nsm
   a825-a826=nsm a828-a82b=on a82c=nsm a838-a839=on a874-a877=on a8c4-a8c5=nsm a8e0-a8f1=nsm
   a8ff=nsm a926-a92d=nsm a947-a951=nsm a980-a982=nsm a9b3=nsm a9b6-a9b9=nsm a9bc-a9bd=nsm
   a9e5=nsm aa29-aa2e=nsm aa31-aa32=nsm aa35-aa36=nsm aa43=nsm aa4c=nsm aa7c=nsm aab0=nsm
   aab2-aab4=nsm aab7-aab8=nsm aabe-aabf=nsm aac1=nsm aaec-aaed=nsm aaf6=nsm ab6a-ab6b=on
   abe5=nsm abe8=nsm abed=nsm fb1e=nsm fbb2-fbc2=r fbc3-fbd2=on fd3e-fd4f=on fd90-fd91=on
   fdc8-fdcf=on fdfd-fdff=on fe20-fe2f=nsm fe45-fe46=on fe73=r 10101=on 10140-1018c=on
   10190-1019c=on 101a0=on 101fd=nsm 102e0=nsm 102e1-102fb=en 10376-1037a=nsm 10800-10805=r
   10808=r 1080a-10835=r 10837-10838=r 1083c=r 1083f-10855=r 10857-1089e=r 108a7-108af=r
   108e0-108f2=r 108f4-108f5=r 108fb-1091b=r 1091f=on 10920-10939=r 1093f-10959=r 10980-109b7=r
   109bc-109cf=r 109d2-10a00=r 10a01-10a03=nsm 10a05-10a06=nsm 10a0c-10a0f=nsm 10a10-10a13=r
   10a15-10a17=r 10a19-10a35=r 10a38-10a3a=nsm 10a3f=nsm 10a40-10a48=r 10a50-10a58=r
   10a60-10a9f=r 10ac0-10ae4=r 10ae5-10ae6=nsm 10aeb-10af6=r 10b00-10b35=r 10b39-10b3f=on
   10b40-10b55=r 10b58-10b72=r 10b78-10b91=r 10b99-10b9c=r 10ba9-10baf=r 10c00-10c48=r
   10cc0-10cf2=r 10cfa-10d23=r 10d24-10d27=nsm 10d30-10d39=an 10d40-10d4f=r 10d69-10d6d=nsm
   10d6e=on 10d6f-10d85=r 10d8e-10d8f=r 10e60-10e7e=an 10e80-10ea9=r 10eab-10eac=nsm 10ead=r
   10eb0-10eb1=r 10ec2-10ec7=r 10ed0-10ed8=on 10efa-10eff=nsm 10f00-10f27=r 10f30-10f45=r
   10f46-10f50=nsm 10f51-10f59=r 10f70-10f81=r 10f82-10f85=nsm 10f86-10f89=r 10fb0-10fcb=r
   10fe0-10ff6=r 11001=nsm 11038-11046=nsm 11052-11065=on 11070=nsm 11073-11074=nsm
   1107f-11081=nsm 110b3-110b6=nsm 110b9-110ba=nsm 110c2=nsm 11100-11102=nsm 11127-1112b=nsm
   1112d-11134=nsm 11173=nsm 11180-11181=nsm 111b6-111be=nsm 111c9-111cc=nsm 111cf=nsm
   1122f-11231=nsm 11234=nsm 11236-11237=nsm 1123e=nsm 11241=nsm 112df=nsm 112e3-112ea=nsm
   11300-11301=nsm 1133b-1133c=nsm 11340=nsm 11366-1136c=nsm 11370-11374=nsm 113bb-113c0=nsm
   113ce=nsm 113d0=nsm 113d2=nsm 113e1-113e2=nsm 11438-1143f=nsm 11442-11444=nsm 11446=nsm
   1145e=nsm 114b3-114b8=nsm 114ba=nsm 114bf-114c0=nsm 114c2-114c3=nsm 115b2-115b5=nsm
   115bc-115bd=nsm 115bf-115c0=nsm 115dc-115dd=nsm 11633-1163a=nsm 1163d=nsm 1163f-11640=nsm
   11660-1166c=on 116ab=nsm 116ad=nsm 116b0-116b5=nsm 116b7=nsm 1171d-1171f=nsm 11722-11725=nsm
   11727-1172b=nsm 1182f-11837=nsm 11839-1183a=nsm 1193b-1193c=nsm 1193e=nsm 11943=nsm
   119d4-119d7=nsm 119da-119db=nsm 119e0=nsm 11a01-11a06=nsm 11a09-11a0a=nsm 11a33-11a38=nsm
   11a3b-11a3e=nsm 11a47=nsm 11a51-11a56=nsm 11a59-11a5b=nsm 11a8a-11a96=nsm 11a98-11a99=nsm
   11b60=nsm 11b62-11b64=nsm 11b66=nsm 11c30-11c36=nsm 11c38-11c3d=nsm 11c92-11ca7=nsm
   11caa-11cb0=nsm 11cb2-11cb3=nsm 11cb5-11cb6=nsm 11d31-11d36=nsm 11d3a=nsm 11d3c-11d3d=nsm
   11d3f-11d45=nsm 11d47=nsm 11d90-11d91=nsm 11d95=nsm 11d97=nsm 11ef3-11ef4=nsm 11f00-11f01=nsm
   11f36-11f3a=nsm 11f40=nsm 11f42=nsm 11f5a=nsm 11fd5-11ff1=on 13440=nsm 13447-13455=nsm
   1611e-16129=nsm 1612d-1612f=nsm 16af0-16af4=nsm 16b30-16b36=nsm 16f4f=nsm 16f8f-16f92=nsm
   16fe2=on 16fe4=nsm 1bc9d-1bc9e=nsm 1cc00-1ccd5=on 1ccfa-1ccfc=on 1cd00-1ceb3=on 1ceba-1ced0=on
   1cee0-1cef0=on 1cf00-1cf2d=nsm 1cf30-1cf46=nsm 1d167-1d169=nsm 1d17b-1d182=nsm 1d185-1d18b=nsm
   1d1aa-1d1ad=nsm 1d1e9-1d1ea=on 1d200-1d241=on 1d242-1d244=nsm 1d245=on 1d300-1d356=on
   1da00-1da36=nsm 1da3b-1da6c=nsm 1da75=nsm 1da84=nsm 1da9b-1da9f=nsm 1daa1-1daaf=nsm
   1e000-1e006=nsm 1e008-1e018=nsm 1e01b-1e021=nsm 1e023-1e024=nsm 1e026-1e02a=nsm 1e08f=nsm
   1e130-1e136=nsm 1e2ae=nsm 1e2ec-1e2ef=nsm 1e2ff=on 1e4ec-1e4ef=nsm 1e5ee-1e5ef=nsm 1e6e3=nsm
   1e6e6=nsm 1e6ee-1e6ef=nsm 1e6f5=nsm 1e800-1e8c4=r 1e8c7-1e8cf=r 1e8d0-1e8d6=nsm 1e922-1e943=r
   1e944-1e94a=nsm 1e94b=r 1e950-1e959=r 1e95e-1e95f=r 1ec71-1ecb4=r 1ed01-1ed3d=r 1eef0-1eef1=on
   1f000-1f02b=on 1f030-1f093=on 1f0a0-1f0ae=on 1f0b1-1f0bf=on 1f0c1-1f0cf=on 1f0d1-1f0f5=on
   1f10b-1f10f=on 1f12f=on 1f16d-1f16f=on 1f1ad=on 1f260-1f265=on 1f300-1f6d8=on 1f6dc-1f6ec=on
   1f6f0-1f6fc=on 1f700-1f7d9=on 1f7e0-1f7eb=on 1f7f0=on 1f800-1f80b=on 1f810-1f847=on
   1f850-1f859=on 1f860-1f887=on 1f890-1f8ad=on 1f8b0-1f8bb=on 1f8c0-1f8c1=on 1f8d0-1f8d8=on
   1f900-1fa57=on 1fa60-1fa6d=on 1fa70-1fa7c=on 1fa80-1fa8a=on 1fa8e-1fac6=on 1fac8=on
   1facd-1fadc=on 1fadf-1faea=on 1faef-1faf8=on 1fb00-1fb92=on 1fb94-1fbef=on 1fbfa=on"

def ofChar (c : Char) : Direction := (table.value? c).getD rightward

end Direction

end QueryTree.Text
