import ScopeGateway.Text.Table

/-!
Characters that fold to a single other one: mostly capitals, and variants for compatibility.
-/
namespace ScopeGateway.Text

/-- Code points `first`, `first + step`, … that all move by the same distance. -/
structure Shift where
  first : Nat
  target : Nat
  count : Nat
  step : Nat
deriving Repr

def Shift.ofRow? : List Nat → Option Shift
  | [first, target, count] => some ⟨first, target, count, 1⟩
  | [first, target, count, step] => some ⟨first, target, count, step⟩
  | _ => none

def Shift.image? (s : Shift) (n : Nat) : Option Nat :=
  if s.first ≤ n ∧ n < s.first + s.count * s.step ∧ (n - s.first) % s.step = 0 then
    some (s.target + (n - s.first))
  else none

/-- First code point and its image, then how many there are, and how far apart unless they are
neighbours. -/
def shiftTable : String :=
  "c0:e0:17 d8:f8:7 100:101:18:2 139:13a:3:2 141:142:4:2 14a:14b:17:2 179:17a:3:2 1a0:1a1:3:2
  1cd:1ce:8:2 1de:1df:9:2 1f8:1f9:14:2 222:223:9:2 246:247:5:2 388:3ad:3 391:3b1:11 3a3:3c3:9
  3d8:3d9:c:2 3fd:37b:3 400:450:10 410:430:20 460:461:11:2 48a:48b:1b:2 4c1:4c2:7:2 4d0:4d1:30:2
  531:561:26 10a0:2d00:26 13f8:13f0:6 1c90:10d0:2b 1cbd:10fd:3 1d31:65:5:2 1d34:68:4:2 1d5d:3b2:3
  1da4:268:3 1dae:272:4 1dbc:290:3 1e00:1e01:4b:2 1ea0:1ea1:30:2 1f08:1f00:8 1f18:1f10:6
  1f28:1f20:8 1f38:1f30:8 1f48:1f40:6 1f59:1f51:4:2 1f68:1f60:8 2074:34:6 2080:30:a 2096:6b:4
  2119:70:3 2135:5d0:4 2460:31:9 24b6:61:1a 24d0:61:1a 2c00:2c30:30 2c67:2c68:3:2 2c80:2c81:32:2
  3137:1103:3 313a:11b0:6 3141:1106:3 3145:1109:a 314f:1161:15 3178:112b:5 3184:1157:3 3263:1105:3
  3269:110e:5 32e4:30ca:6 32ee:30de:5 32f5:30e8:6 32fb:30ef:4 a640:a641:17:2 a680:a681:e:2
  a722:a723:7:2 a732:a733:1f:2 a77e:a77f:5:2 a796:a797:a:2 a7b4:a7b5:8:2 a7cc:a7cd:8:2
  ab70:13a0:50 fb24:5db:3 fe41:300c:4 ff01:21:20 ff21:61:1a ff3b:5b:24 ff85:30ca:6 ff8f:30de:5
  ff96:30e8:6 ffa7:1103:3 ffaa:11b0:6 ffb1:1106:3 ffb5:1109:a ffc2:1161:6 ffca:1167:6 ffd2:116d:6
  ffda:1173:3 ffe9:2190:4 10400:10428:28 104b0:104d8:24 10570:10597:13:2 10571:10598:5:2
  1057d:105a4:7:2 1058d:105b4:3:2 107b6:1c0:3 10c80:10cc0:33 10d50:10d70:16 118a0:118c0:20
  16e40:16e60:20 16ea0:16ebb:19 1ccd6:61:1a 1ccf0:30:a 1d400:61:1a 1d41a:61:1a 1d434:61:1a
  1d44e:61:d:2 1d44f:62:3:2 1d457:6a:9:2 1d468:61:1a 1d482:61:1a 1d4a9:6e:4 1d4ae:73:8 1d4b6:61:4
  1d4bb:66:b:2 1d4be:69:3:2 1d4c6:71:5:2 1d4d0:61:1a 1d4ea:61:1a 1d505:62:3:2 1d50d:6a:8
  1d516:73:7 1d51e:61:1a 1d539:62:3:2 1d53c:65:6:2 1d54a:73:7 1d552:61:1a 1d56c:61:1a 1d586:61:1a
  1d5a0:61:1a 1d5ba:61:1a 1d5d4:61:1a 1d5ee:61:1a 1d608:61:1a 1d622:61:1a 1d63c:61:1a 1d656:61:1a
  1d670:61:1a 1d68a:61:1a 1d6a8:3b1:11 1d6ba:3c3:7 1d6c2:3b1:11 1d6d4:3c3:7 1d6e2:3b1:11
  1d6f4:3c3:7 1d6fc:3b1:11 1d70e:3c3:7 1d71c:3b1:11 1d72e:3c3:7 1d736:3b1:11 1d748:3c3:7
  1d756:3b1:11 1d768:3c3:7 1d770:3b1:11 1d782:3c3:7 1d790:3b1:11 1d7a2:3c3:7 1d7aa:3b1:11
  1d7bc:3c3:7 1d7ce:30:a 1d7d8:30:a 1d7e2:30:a 1d7ec:30:a 1d7f6:30:a 1e030:430:9 1e039:43a:3
  1e03c:43e:b 1e051:430:9 1e05f:443:6 1e900:1e922:22 1ee0a:643:4 1ee2a:643:4 1ee8b:644:3
  1eeab:644:3 1f130:61:1a 1fbf0:30:a"

def shifts : List Shift := (tableRows shiftTable).filterMap Shift.ofRow?

/-- Neighbours from `first` on, each with an image of its own. -/
structure Series where
  first : Nat
  images : List Nat
deriving Repr

def Series.ofRow? : List Nat → Option Series
  | first :: images => some ⟨first, images⟩
  | [] => none

def Series.image? (s : Series) (n : Nat) : Option Nat :=
  if s.first ≤ n then s.images[n - s.first]? else none

/-- First code point, then the images. -/
def seriesTable : String :=
  "a0:20 aa:61 b2:32:33 b5:3bc b9:31:6f 134:135 136:137 178:ff 17f:73 181:253:183 184:185
  186:254:188 189:256:257:18c 18e:1dd:259:25b:192 193:260:263 196:269:268:199 19c:26f:272 19f:275
  1a6:280:1a8 1a9:283 1ac:1ad 1ae:288:1b0 1b1:28a:28b:1b4 1b5:1b6 1b7:292:1b9 1bc:1bd 1f4:1f5
  1f6:195:1bf 220:19e 23a:2c65:23c 23d:19a:2c66 241:242 243:180:289:28c
  2b0:68:266:6a:72:279:27b:281:77:79 2e0:263:6c:73:78:295 340:300:301 343:313 345:3b9 370:371
  372:373 374:2b9 376:377 37e:3b:3f3 386:3ac:b7 38c:3cc 38e:3cd:3ce
  3cf:3d7:3b2:3b8:3c5:3cd:3cb:3c6:3c0 3f0:3ba:3c1:3c3 3f4:3b8:3b5 3f7:3f8 3f9:3c3:3fb 4c0:4cf
  f0c:f0b 10c7:2d27 10cd:2d2d 10fc:10dc 1c80:432:434:43e:441:442:442:44a:463:a64b:1c8a
  1d2c:61:e6:62 1d30:64 1d32:1dd
  1d3c:6f:223:70:72:74:75:77:61:250:251:1d02:62:64:65:259:25b:25c:67
  1d4f:6b:6d:14b:6f:254:1d16:1d17:70:74:75:1d1d:26f:76:1d25
  1d60:3c6:3c7:69:72:75:76:3b2:3b3:3c1:3c6:3c7 1d78:43d 1d9b:252:63:255:f0:25c:66:25f:261:265
  1da7:1d7b:29d:26d:1d85:29f:271:270 1db2:278:282:283:1ab:289:28a:1d1c:28b:28c:7a 1dbf:3b8
  1e9b:1e61 1e9e:df 1f71:3ac 1f73:3ad 1f75:3ae 1f77:3af 1f79:3cc 1f7b:3cd 1f7d:3ce
  1fb8:1fb0:1fb1:1f70:3ac 1fbe:3b9 1fc8:1f72:3ad:1f74:3ae 1fd3:390 1fd8:1fd0:1fd1:1f76:3af
  1fe3:3b0 1fe8:1fe0:1fe1:1f7a:3cd:1fe5 1fef:60 1ff8:1f78:3cc:1f7c:3ce
  2000:20:20:20:20:20:20:20:20:20:20:20 2011:2010 202f:20 205f:20 2070:30:69
  207a:2b:2212:3d:28:29:6e 208a:2b:2212:3d:28:29 2090:61:65:6f:78:259:68 209a:70:73:74 2102:63
  2107:25b 210a:67:68:68:68:68:127:69:69:6c:6c 2115:6e 211c:72:72 2124:7a 2126:3c9 2128:7a
  212a:6b:e5:62:63 212f:65:65:66:214e:6d:6f 2139:69 213c:3c0:3b3:3b3:3c0:2211 2145:64:64:65:69:6a
  2160:69 2164:76 2169:78 216c:6c:63:64:6d:69 2174:76 2179:78 217c:6c:63:64:6d 2183:2184
  2329:3008:3009 24ea:30 2c60:2c61 2c62:26b:1d7d:27d 2c6d:251:271:250:252 2c72:2c73 2c75:2c76
  2c7c:6a:76:23f:240 2ceb:2cec 2ced:2cee 2cf2:2cf3 2d6f:2d61 2e9f:6bcd 2ef3:9f9f
  2f00:4e00:4e28:4e36:4e3f:4e59:4e85:4e8c:4ea0:4eba:513f:5165:516b:5182:5196:51ab:51e0:51f5:5200
  2f12:529b:52f9:5315:531a:5338:5341:535c:5369:5382:53b6:53c8:53e3:56d7:571f:58eb:5902:590a:5915
  2f24:5927:5973:5b50:5b80:5bf8:5c0f:5c22:5c38:5c6e:5c71:5ddb:5de5:5df1:5dfe:5e72:5e7a:5e7f:5ef4
  2f36:5efe:5f0b:5f13:5f50:5f61:5f73:5fc3:6208:6236:624b:652f:6534:6587:6597:65a4:65b9:65e0:65e5
  2f48:66f0:6708:6728:6b20:6b62:6b79:6bb3:6bcb:6bd4:6bdb:6c0f:6c14:6c34:706b:722a:7236:723b:723f
  2f5a:7247:7259:725b:72ac:7384:7389:74dc:74e6:7518:751f:7528:7530:758b:7592:7676:767d:76ae:76bf
  2f6c:76ee:77db:77e2:77f3:793a:79b8:79be:7a74:7acb:7af9:7c73:7cf8:7f36:7f51:7f8a:7fbd:8001:800c
  2f7e:8012:8033:807f:8089:81e3:81ea:81f3:81fc:820c:821b:821f:826e:8272:8278:864d:866b:8840:884c
  2f90:8863:897e:898b:89d2:8a00:8c37:8c46:8c55:8c78:8c9d:8d64:8d70:8db3:8eab:8eca:8f9b:8fb0:8fb5
  2fa2:9091:9149:91c6:91cc:91d1:9577:9580:961c:96b6:96b9:96e8:9751:975e:9762:9769:97cb:97ed:97f3
  2fb4:9801:98a8:98db:98df:9996:9999:99ac:9aa8:9ad8:9adf:9b25:9b2f:9b32:9b3c:9b5a:9ce5:9e75:9e7f
  2fc6:9ea5:9ebb:9ec3:9ecd:9ed1:9ef9:9efd:9f0e:9f13:9f20:9f3b:9f4a:9f52:9f8d:9f9c:9fa0 3000:20
  3002:2e 3036:3012 3038:5341:5344:5345 3131:1100:1101:11aa:1102:11ac:11ad 3140:111a 3144:1121
  3165:1114:1115:11c7:11c8:11cc:11ce:11d3:11d7:11d9:111c:11dd:11df:111d:111e:1120:1122:1123:1127
  3177:1129 317d:1132:1136:1140:1147:114c:11f1:11f2 3187:1184:1185:1188:1191:1192:1194:119e:11a1
  3192:4e00:4e8c:4e09:56db:4e0a:4e2d:4e0b:7532:4e59:4e19:4e01:5929:5730:4eba
  3244:554f:5e7c:6587:7b8f 3260:1100:1102:1103 3266:1109:110b:110c
  326e:ac00:b098:b2e4:b77c:b9c8:bc14:c0ac:c544:c790:cc28:ce74:d0c0:d30c:d558 327e:c6b0
  3280:4e00:4e8c:4e09:56db:4e94:516d:4e03:516b:4e5d:5341:6708:706b:6c34:6728:91d1:571f:65e5:682a
  3292:6709:793e:540d:7279:8ca1:795d:52b4:79d8:7537:5973:9069:512a:5370:6ce8:9805:4f11:5199:6b63
  32a4:4e0a:4e2d:4e0b:5de6:53f3:533b:5b97:5b66:76e3:4f01:8cc7:5354:591c
  32d0:30a2:30a4:30a6:30a8:30aa:30ab:30ad:30af:30b1:30b3:30b5:30b7:30b9:30bb:30bd:30bf:30c1:30c4
  32e2:30c6:30c8 32ea:30d2:30d5:30d8:30db 32f3:30e4:30e6 a69c:44a:44c a770:a76f a779:a77a
  a77b:a77c a77d:1d79 a78b:a78c a78d:265 a790:a791 a792:a793 a7aa:266:25c:261:26c:26a
  a7b0:29e:287:29d:ab53 a7c4:a794:282:1d8e:a7c8 a7c9:a7ca a7cb:264 a7dc:19b a7f1:73:63:66:71:a7f6
  a7f8:127:153 ab5c:a727:ab37:26b:ab52 ab69:28d
  f900:8c48:66f4:8eca:8cc8:6ed1:4e32:53e5:9f9c:9f9c:5951:91d1:5587:5948:61f6:7669:7f85:863f:87ba
  f912:88f8:908f:6a02:6d1b:70d9:73de:843d:916a:99f1:4e82:5375:6b04:721b:862d:9e1e:5d50:6feb:85cd
  f924:8964:62c9:81d8:881f:5eca:6717:6d6a:72fc:90ce:4f86:51b7:52de:64c4:6ad3:7210:76e7:8001:8606
  f936:865c:8def:9732:9b6f:9dfa:788c:797f:7da0:83c9:9304:9e7f:8ad6:58df:5f04:7c60:807e:7262:78ca
  f948:8cc2:96f7:58d8:5c62:6a13:6dda:6f0f:7d2f:7e37:964b:52d2:808b:51dc:51cc:7a1c:7dbe:83f1:9675
  f95a:8b80:62cf:6a02:8afe:4e39:5be7:6012:7387:7570:5317:78fb:4fbf:5fa9:4e0d:6ccc:6578:7d22:53c3
  f96c:585e:7701:8449:8aaa:6bba:8fb0:6c88:62fe:82e5:63a0:7565:4eae:5169:51c9:6881:7ce7:826f:8ad2
  f97e:91cf:52f5:5442:5973:5eec:65c5:6ffe:792a:95ad:9a6a:9e97:9ece:529b:66c6:6b77:8f62:5e74:6190
  f990:6200:649a:6f23:7149:7489:79ca:7df4:806f:8f26:84ee:9023:934a:5217:52a3:54bd:70c8:88c2:8aaa
  f9a2:5ec9:5ff5:637b:6bae:7c3e:7375:4ee4:56f9:5be7:5dba:601c:73b2:7469:7f9a:8046:9234:96f6:9748
  f9b4:9818:4f8b:79ae:91b4:96b8:60e1:4e86:50da:5bee:5c3f:6599:6a02:71ce:7642:84fc:907c:9f8d:6688
  f9c6:962e:5289:677b:67f3:6d41:6e9c:7409:7559:786b:7d10:985e:516d:622e:9678:502b:5d19:6dea:8f2a
  f9d8:5f8b:6144:6817:7387:9686:5229:540f:5c65:6613:674e:68a8:6ce5:7406:75e2:7f79:88cf:88e1:91cc
  f9ea:96e2:533f:6eba:541d:71d0:7498:85fa:96a3:9c57:9e9f:6797:6dcb:81e8:7acb:7b20:7c92:72c0:7099
  f9fc:8b58:4ec0:8336:523a:5207:5ea6:62d3:7cd6:5b85:6d1e:66b4:8f3b:884c:964d:898b:5ed3:5140:55c0
  fa10:585a fa12:6674 fa15:51de:732a:76ca:793c:795e:7965:798f:9756:7cbe:7fbd fa20:8612 fa22:8af8
  fa25:9038:90fd
  fa2a:98ef:98fc:9928:9db4:90de:96b7:4fae:50e7:514d:52c9:52e4:5351:559d:5606:5668:5840:58a8:5c64
  fa3c:5c6e:6094:6168:618e:61f2:654f:65e2:6691:6885:6d77:6e1a:6f22:716e:722b:7422:7891:793e:7949
  fa4e:7948:7950:7956:795d:798d:798e:7a40:7a81:7bc0:7df4:7e09:7e41:7f72:8005:81ed:8279:8279:8457
  fa60:8910:8996:8b01:8b39:8cd3:8d08:8fb6:9038:96e3:97ff:983b:6075:242ee:8218
  fa70:4e26:51b5:5168:4f80:5145:5180:52c7:52fa:559d:5555:5599:55e2:585a:58b3:5944:5954:5a62:5b28
  fa82:5ed2:5ed9:5f69:5fad:60d8:614e:6108:618e:6160:61f2:6234:63c4:641c:6452:6556:6674:6717:671b
  fa94:6756:6b79:6bba:6d41:6edb:6ecb:6f22:701e:716e:77a7:7235:72af:732a:7471:7506:753b:761d:761f
  faa6:76ca:76db:76f4:774a:7740:78cc:7ab1:7bc0:7c7b:7d5b:7df4:7f3e:8005:8352:83ef:8779:8941:8986
  fab8:8996:8abf:8af8:8acb:8b01:8afe:8aed:8b39:8b8a:8d08:8f38:9072:9199:9276:967c:96e3:9756:97db
  faca:97ff:980b:983b:9b12:9f9c:2284a:22844:233d5:3b9d:4018:4039:25249:25cd0:27ed3:9f43:9f8e
  fb20:5e2:5d0:5d3:5d4 fb27:5e8:5ea:2b
  fb50:671:671:67b:67b:67b:67b:67e:67e:67e:67e:680:680:680:680:67a:67a:67a:67a:67f:67f:67f:67f:679
  fb67:679:679:679:6a4:6a4:6a4:6a4:6a6:6a6:6a6:6a6:684:684:684:684:683:683:683:683:686:686:686:686
  fb7e:687:687:687:687:68d:68d:68c:68c:68e:68e:688:688:698:698:691:691:6a9:6a9:6a9:6a9:6af:6af:6af
  fb95:6af:6b3:6b3:6b3:6b3:6b1:6b1:6b1:6b1:6ba:6ba:6bb:6bb:6bb:6bb:6c0:6c0:6c1:6c1:6c1:6c1:6be:6be
  fbac:6be:6be:6d2:6d2:6d3:6d3 fbd3:6ad:6ad:6ad:6ad:6c7:6c7:6c6:6c6:6c8:6c8
  fbde:6cb:6cb:6c5:6c5:6c9:6c9:6d0:6d0:6d0:6d0:649:649 fbfc:6cc:6cc:6cc:6cc fe10:2c:3001
  fe13:3a:3b:21:3f:3016:3017
  fe31:2014:2013:5f:5f:28:29:7b:7d:3014:3015:3010:3011:300a:300b:3008:3009 fe47:5b:5d
  fe4d:5f:5f:5f:2c:3001 fe54:3b:3a:3f:21:2014:28:29:7b:7d:3014:3015:23:26:2a:2b:2d:3c:3e:3d
  fe68:5c:24:25:40
  fe80:621:622:622:623:623:624:624:625:625:626:626:626:626:627:627:628:628:628:628:629:629:62a:62a
  fe97:62a:62a:62b:62b:62b:62b:62c:62c:62c:62c:62d:62d:62d:62d:62e:62e:62e:62e:62f:62f:630:630:631
  feae:631:632:632:633:633:633:633:634:634:634:634:635:635:635:635:636:636:636:636:637:637:637:637
  fec5:638:638:638:638:639:639:639:639:63a:63a:63a:63a:641:641:641:641:642:642:642:642:643:643:643
  fedc:643:644:644:644:644:645:645:645:645:646:646:646:646:647:647:647:647:648:648:649:649:64a:64a
  fef3:64a:64a
  ff5f:2985:2986:2e:300c:300d:3001:30fb:30f2:30a1:30a3:30a5:30a7:30a9:30e3:30e5:30e7:30c3:30fc
  ff71:30a2:30a4:30a6:30a8:30aa:30ab:30ad:30af:30b1:30b3:30b5:30b7:30b9:30bb:30bd:30bf:30c1:30c4
  ff83:30c6:30c8 ff8b:30d2:30d5:30d8:30db ff94:30e4:30e6 ff9c:30ef:30f3:3099:309a
  ffa1:1100:1101:11aa:1102:11ac:11ad ffb0:111a ffb4:1121 ffe0:a2:a3:ac ffe4:a6:a5:20a9 ffe8:2502
  ffed:25a0:25cb 10595:105bc 10781:2d0:2d1:e6:299:253
  10787:2a3:ab66:2a5:2a4:256:257:1d91:258:25e:2a9:264:262:260:29b:127:29c:267:284:2aa:2ab:26c
  1079c:1df04:a78e:26e:1df05:28e:1df06:f8:276:277:71:27a:1df08:27d:27e:280:2a8:2a6:ab67:2a7:288
  107b0:2c71 107b2:28f:2a1:2a2:298 107b9:1df0a:1df1e 1d49c:61 1d49e:63:64 1d4a2:67 1d4a5:6a:6b
  1d504:61 1d508:65 1d50a:67 1d538:61 1d541:6a 1d543:6c 1d6a4:131:237 1d6b9:3b8 1d6c1:2207
  1d6d3:3c3 1d6db:2202:3b5:3b8:3ba:3c6:3c1:3c0 1d6f3:3b8 1d6fb:2207 1d70d:3c3
  1d715:2202:3b5:3b8:3ba:3c6:3c1:3c0 1d72d:3b8 1d735:2207 1d747:3c3
  1d74f:2202:3b5:3b8:3ba:3c6:3c1:3c0 1d767:3b8 1d76f:2207 1d781:3c3
  1d789:2202:3b5:3b8:3ba:3c6:3c1:3c0 1d7a1:3b8 1d7a9:2207 1d7bb:3c3
  1d7c3:2202:3b5:3b8:3ba:3c6:3c1:3c0:3dd:3dd 1e047:44b:44d:44e:a689:4d9:456:458:4e9:4af:4cf
  1e05a:43a:43b:43e:43f:441 1e065:44a:44b:491:456:455:45f:4ab:a651:4b1 1ee00:627:628:62c:62f
  1ee05:648:632:62d:637:64a
  1ee0e:633:639:641:635:642:631:634:62a:62b:62e:630:636:638:63a:66e:6ba:6a1:66f 1ee21:628:62c
  1ee24:647 1ee27:62d 1ee29:64a 1ee2e:633:639:641:635:642 1ee34:634:62a:62b:62e 1ee39:636
  1ee3b:63a 1ee42:62c 1ee47:62d 1ee49:64a 1ee4b:644 1ee4d:646:633:639 1ee51:635:642 1ee54:634
  1ee57:62e 1ee59:636 1ee5b:63a 1ee5d:6ba 1ee5f:66f 1ee61:628:62c 1ee64:647 1ee67:62d:637:64a:643
  1ee6c:645:646:633:639:641:635:642 1ee74:634:62a:62b:62e 1ee79:636:638:63a:66e 1ee7e:6a1
  1ee80:627:628:62c:62f:647:648:632:62d:637:64a
  1ee8e:633:639:641:635:642:631:634:62a:62b:62e:630:636:638:63a 1eea1:628:62c:62f
  1eea5:648:632:62d:637:64a 1eeae:633:639:641:635:642:631:634:62a:62b:62e:630:636:638:63a
  1f12b:63:72 1f202:30b5
  1f210:624b:5b57:53cc:30c7:4e8c:591a:89e3:5929:4ea4:6620:7121:6599:524d:5f8c:518d:65b0:521d:7d42
  1f222:751f:8ca9:58f0:5439:6f14:6295:6355:4e00:4e09:904a:5de6:4e2d:53f3:6307:8d70:6253:7981:7a7a
  1f234:5408:6e80:6709:6708:7533:5272:55b6:914d 1f250:5f97:53ef
  2f800:4e3d:4e38:4e41:20122:4f60:4fae:4fbb:5002:507a:5099:50e7:50cf:349e:2063a:514d:5154:5164
  2f811:5177:2051c:34b9:5167:518d:2054b:5197:51a4:4ecc:51ac:51b5:291df:51f5:5203:34df:523b:5246
  2f822:5272:5277:3515:52c7:52c9:52e4:52fa:5305:5306:5317:5349:5351:535a:5373:537d:537f:537f:537f
  2f834:20a2c:7070:53ca:53df:20b63:53eb:53f1:5406:549e:5438:5448:5468:54a2:54f6:5510:5553:5563
  2f845:5584:5584:5599:55ab:55b3:55c2:5716:5606:5717:5651:5674:5207:58ee:57ce:57f4:580d:578b:5832
  2f857:5831:58ac:214e4:58f2:58f7:5906:591a:5922:5962:216a8:216ea:59ec:5a1b:5a27:59d8:5a66:36ee
  2f868:36fc:5b08:5b3e:5b3e:219c8:5bc3:5bd8:5be7:5bf3:21b18:5bff:5c06:5f53:5c22:3781:5c60:5c6e
  2f879:5cc0:5c8d:21de4:5d43:21de6:5d6e:5d6b:5d7c:5de1:5de2:382f:5dfd:5e28:5e3d:5e69:3862:22183
  2f88a:387c:5eb0:5eb3:5eb6:5eca:2a392:5efe:22331:22331:8201:5f22:5f22:38c7:232b8:261da:5f62:5f6b
  2f89b:38e3:5f9a:5fcd:5fd7:5ff9:6081:393a:391c:6094:226d4:60c7:6148:614c:614e:614c:617a:618e:61b2
  2f8ad:61a4:61af:61de:61f2:61f6:6210:621b:625d:62b1:62d4:6350:22b0c:633d:62fc:6368:6383:63e4
  2f8be:22bf1:6422:63c5:63a9:3a2e:6469:647e:649d:6477:3a6c:654f:656c:2300a:65e3:66f8:6649:3b19
  2f8cf:6691:3b08:3ae4:5192:5195:6700:669c:80ad:43d9:6717:671b:6721:675e:6753:233c3:3b49:67fa:6785
  2f8e1:6852:6885:2346d:688e:681f:6914:3b9d:6942:69a3:69ea:6aa8:236a3:6adb:3c18:6b21:238a7:6b54
  2f8f2:3c4e:6b72:6b9f:6bba:6bbb:23a8d:21d0b:23afa:6c4e:23cbc:6cbf:6ccd:6c67:6d16:6d3e:6d77:6d41
  2f903:6d69:6d78:6d85:23d1e:6d34:6e2f:6e6e:3d33:6ecb:6ec7:23ed1:6df9:6f6e:23f5e:23f8e:6fc6:7039
  2f914:701e:701b:3d96:704a:707d:7077:70ad:20525:7145:24263:719c:243ab:7228:7235:7250:24608:7280
  2f925:7295:24735:24814:737a:738b:3eac:73a5:3eb8:3eb8:7447:745c:7471:7485:74ca:3f1b:7524:24c36
  2f936:753e:24c92:7570:2219f:7610:24fa1:24fb8:25044:3ffc:4008:76f4:250f3:250f2:25119:25133:771e
  2f946:771f:771f:774a:4039:778b:4046:4096:2541d:784e:788c:78cc:40e3:25626:7956:2569a:256c5:798f
  2f957:79eb:412f:7a40:7a4a:7a4f:2597c:25aa7:25aa7:7aee:4202:25bab:7bc6:7bc9:4227:25c80:7cd2:42a0
  2f968:7ce8:7ce3:7d00:25f86:7d63:4301:7dc7:7e02:7e45:4334:26228:26247:4359:262d9:7f7a:2633e:7f95
  2f979:7ffa:8005:264da:26523:8060:265a8:8070:2335f:43d5:80b2:8103:440b:813e:5ab5:267a7:267b5
  2f989:23393:2339c:8201:8204:8f9e:446b:8291:828b:829d:52b3:82b1:82b3:82bd:82e6:26b3c:82e5:831d
  2f99a:8363:83ad:8323:83bd:83e7:8457:8353:83ca:83cc:83dc:26c36:26d6b:26cd5:452b:84f1:84f3:8516
  2f9ab:273ca:8564:26f2c:455d:4561:26fb1:270d2:456b:8650:865c:8667:8669:86a9:8688:870e:86e2:8779
  2f9bc:8728:876b:8786:45d7:87e1:8801:45f9:8860:8863:27667:88d7:88de:4635:88fa:34bb:278ae:27966
  2f9cd:46be:46c7:8aa0:8aed:8b8a:8c55:27ca8:8cab:8cc1:8d1b:8d77:27f2f:20804:8dcb:8dbc:8df0:208de
  2f9de:8ed4:8f38:285d2:285ed:9094:90f1:9111:2872e:911b:9238:92d7:92d8:927c:93f9:9415:28bfa:958b
  2f9ef:4995:95b7:28d77:49e6:96c3:5db2:9723:29145:2921a:4a6e:4a76:97e0:2940a:4ab2:29496:980b:980b
  2fa00:9829:295b6:98e2:4b33:9929:99a7:99c2:99fe:4bce:29b30:9b12:9c40:9cfd:4cce:4ced:9d67:2a0ce
  2fa11:4cf8:2a105:2a20e:2a291:9ebb:4d56:9ef9:9efe:9f05:9f0f:9f16:9f3b:2a600"

def series : List Series := (tableRows seriesTable).filterMap Series.ofRow?

/-- The code point that another one folds to, if it is a single one. -/
def foldImage? (n : Nat) : Option Nat :=
  (shifts.findSome? (Shift.image? · n)).or (series.findSome? (Series.image? · n))

end ScopeGateway.Text
