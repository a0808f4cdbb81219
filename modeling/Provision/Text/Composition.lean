import Provision.Text.Table

set_option autoImplicit false

namespace Provision.Text.Composition

def classes : Table := .read [
  "300.14:e6 1:e8 1.3:dc 1:e8 1:d8 1.4:dc 1.1:ca 1.3:dc 1.1:ca 1.a:dc 1.4:1 1.3:dc 1.9:e6 1.2:dc 1.2:e6 1.1:dc",
  "2.2:e6 1.3:dc 1:e6 1:e8 1.1:dc 1:e6 1:e9 1.1:ea 1:e9 1.1:ea 1:e9 1.c:e6 114.4:e6 10a:dc 1.3:e6 1:dc 1.2:e6",
  "1:de 1:dc 1.5:e6 1.5:dc 1.1:e6 1:dc 1.1:e6 1:de 1:e4 1:e6 1:a 1:b 1:c 1:d 1:e 1:f 1:10 1:11 1:12 1.1:13 1:14",
  "1:15 1:16 2:17 2:18 1:19 2:e6 1:dc 2:12 49.7:e6 1:1e 1:1f 1:20 31:1b 1:1c 1:1d 1:1e 1:1f 1:20 1:21 1:22",
  "1.1:e6 1.1:dc 1.4:e6 1:dc 1.1:e6 1:dc 11:23 66.6:e6 3.3:e6 1:dc 1:e6 3.1:e6 2:dc 1.1:e6 1:dc 24:24 1f:e6",
  "1:dc 1.1:e6 1:dc 1.1:e6 1.2:dc 1:e6 1.1:dc 1:e6 1:dc 1.2:e6 1:dc 1:e6 1:dc 1:e6 1:dc 1:e6 1:dc 1.1:e6",
  "a1.6:e6 1:dc 1:e6 a:dc 19.3:e6 2.8:e6 2.2:e6 2.4:e6 2c.2:dc 3d:e6 1.2:dc 1.3:e6 2b.4:e6 1.4:dc 1.d:e6 2:dc",
  "1.1:e6 1:dc 1.1:e6 1:dc 1.2:e6 1.2:dc 1:1b 1:1c 1:1d 1.2:e6 1:dc 1.1:e6 1.1:dc 1.4:e6 3d:7 11:9 4:e6 1:dc",
  "1.1:e6 68:7 11:9 31:e6 3e:7 11:9 6f:7 11:9 6f:7 11:9 80:9 6f:7 11:9 8:54 1:5b 66:7 11:9 6e.1:9 11:9 7d:9",
  "6e.1:67 1:9 e.3:6b 6d.1:76 1:9 e.3:7a 4d.1:dc 1c:dc 2:dc 2:d8 38:81 1:82 2:84 6.3:82 3:82 2.1:e6 1:9 2.1:e6",
  "3f:dc 71:7 2.1:9 53:dc 2d0.2:e6 3b5.1:9 1f:9 9e:9 b:e6 cc:e4 90:de 1:e6 1:dc dc:e6 1:dc 48:9 15.7:e6 3:dc",
  "31.4:e6 1.5:dc 1.1:e6 1:dc 2.1:dc 1.1:e6 1.1:dc 1.4:e6 1:dc 1.3:e6 66:7 10:9 27:e6 1:dc 1.6:e6 37.1:9 3b:7",
  "c.1:9 44:7 99.2:e6 2:1 1.4:dc 1.1:e6 1.3:dc 1:e6 2.6:1 5:dc 7:e6 4.1:e6 c7.1:e6 1:dc 1.6:e6 1:dc 1.1:e6 1:ea",
  "1:d6 1:dc 1:ca 1.24:e6 1:e8 1.1:e4 1:dc 1:da 1:e6 1:e9 1:dc 1:e6 1:dc 2d1.1:e6 1.1:1 1.3:e6 1.2:1 1.1:e6",
  "5:e6 4.1:1 1:e6 1:dc 1:e6 1.1:1 1.3:dc 1:e6 bff.2:e6 8e:9 61.1f:e6 22b:da 1:e4 1:e8 1:de 1.1:e0 6a.1:8",
  "75d5:e6 5.9:e6 21.1:e6 51.1:e6 115:9 26:9 98:9 1c.11:e6 3a.2:dc 26:9 60:7 d:9 f0:e6 2.1:e6 1:dc 3.1:e6",
  "6.1:e6 2:e6 35:9 f7:9 4f31:1a 302.6:e6 1.6:dc 1.1:e6 3ce:dc e3:dc 96.4:e6 693:dc 2:e6 29:e6 1:1 1:dc 5:9",
  "a6:e6 1:dc 23e.3:e6 184.1:e6 51.2:dc 47.1:dc 1.2:e6 1:dc 1:e6 1.3:dc 32:e6 1:dc 1:e6 1:dc c1:9 2a:9 f:9 3a:9",
  "1:7 46.2:e6 31.1:9 3f:7 4d:9 a:7 6b:9 1:7 b3:7 1:9 51.1:7 11:9 19.e:e6 ce:9 4:7 18:e6 64:9 1:7 fc:9 1:7 7f:9",
  "77:9 1:7 74:9 10e:9 1:7 103.1:9 5:7 9d:9 54:9 13:9 52:9 1a6:9 103:7 2.1:9 52:9 1aa.1:9 4bae.4:1 3c.6:e6",
  "4ba.1:6 4cad:1 14c7.1:d8 1.2:1 4:e2 1.4:d8 9.7:dc 3.4:e6 1.1:dc 1f.3:e6 95.2:e6 dbc.8f:e6 a1.6:e6 178:e6",
  "3e.3:e6 1fd.1:e8 1:dc 1:e6 3e1.6:dc 6e.5:e6 1:7"]

def pairs : Table := .read [
  "c0:41,300 1:41,301 1:41,302 1:41,303 1:41,308 1:41,30a 2:43,327 1:45,300 1:45,301 1:45,302 1:45,308 1:49,300",
  "1:49,301 1:49,302 1:49,308 2:4e,303 1:4f,300 1:4f,301 1:4f,302 1:4f,303 1:4f,308 3:55,300 1:55,301 1:55,302",
  "1:55,308 1:59,301 3:61,300 1:61,301 1:61,302 1:61,303 1:61,308 1:61,30a 2:63,327 1:65,300 1:65,301 1:65,302",
  "1:65,308 1:69,300 1:69,301 1:69,302 1:69,308 2:6e,303 1:6f,300 1:6f,301 1:6f,302 1:6f,303 1:6f,308 3:75,300",
  "1:75,301 1:75,302 1:75,308 1:79,301 2:79,308 1:41,304 1:61,304 1:41,306 1:61,306 1:41,328 1:61,328 1:43,301",
  "1:63,301 1:43,302 1:63,302 1:43,307 1:63,307 1:43,30c 1:63,30c 1:44,30c 1:64,30c 3:45,304 1:65,304 1:45,306",
  "1:65,306 1:45,307 1:65,307 1:45,328 1:65,328 1:45,30c 1:65,30c 1:47,302 1:67,302 1:47,306 1:67,306 1:47,307",
  "1:67,307 1:47,327 1:67,327 1:48,302 1:68,302 3:49,303 1:69,303 1:49,304 1:69,304 1:49,306 1:69,306 1:49,328",
  "1:69,328 1:49,307 4:4a,302 1:6a,302 1:4b,327 1:6b,327 2:4c,301 1:6c,301 1:4c,327 1:6c,327 1:4c,30c 1:6c,30c",
  "5:4e,301 1:6e,301 1:4e,327 1:6e,327 1:4e,30c 1:6e,30c 4:4f,304 1:6f,304 1:4f,306 1:6f,306 1:4f,30b 1:6f,30b",
  "3:52,301 1:72,301 1:52,327 1:72,327 1:52,30c 1:72,30c 1:53,301 1:73,301 1:53,302 1:73,302 1:53,327 1:73,327",
  "1:53,30c 1:73,30c 1:54,327 1:74,327 1:54,30c 1:74,30c 3:55,303 1:75,303 1:55,304 1:75,304 1:55,306 1:75,306",
  "1:55,30a 1:75,30a 1:55,30b 1:75,30b 1:55,328 1:75,328 1:57,302 1:77,302 1:59,302 1:79,302 1:59,308 1:5a,301",
  "1:7a,301 1:5a,307 1:7a,307 1:5a,30c 1:7a,30c 22:4f,31b 1:6f,31b e:55,31b 1:75,31b 1d:41,30c 1:61,30c",
  "1:49,30c 1:69,30c 1:4f,30c 1:6f,30c 1:55,30c 1:75,30c 1:dc,304 1:fc,304 1:dc,301 1:fc,301 1:dc,30c 1:fc,30c",
  "1:dc,300 1:fc,300 2:c4,304 1:e4,304 1:226,304 1:227,304 1:c6,304 1:e6,304 3:47,30c 1:67,30c 1:4b,30c",
  "1:6b,30c 1:4f,328 1:6f,328 1:1ea,304 1:1eb,304 1:1b7,30c 1:292,30c 1:6a,30c 4:47,301 1:67,301 3:4e,300",
  "1:6e,300 1:c5,301 1:e5,301 1:c6,301 1:e6,301 1:d8,301 1:f8,301 1:41,30f 1:61,30f 1:41,311 1:61,311 1:45,30f",
  "1:65,30f 1:45,311 1:65,311 1:49,30f 1:69,30f 1:49,311 1:69,311 1:4f,30f 1:6f,30f 1:4f,311 1:6f,311 1:52,30f",
  "1:72,30f 1:52,311 1:72,311 1:55,30f 1:75,30f 1:55,311 1:75,311 1:53,326 1:73,326 1:54,326 1:74,326 3:48,30c",
  "1:68,30c 7:41,307 1:61,307 1:45,327 1:65,327 1:d6,304 1:f6,304 1:d5,304 1:f5,304 1:4f,307 1:6f,307 1:22e,304",
  "1:22f,304 1:59,304 1:79,304 152:a8,301 1:391,301 2:395,301 1:397,301 1:399,301 2:39f,301 2:3a5,301 1:3a9,301",
  "1:3ca,301 1a:399,308 1:3a5,308 1:3b1,301 1:3b5,301 1:3b7,301 1:3b9,301 1:3cb,301 1a:3b9,308 1:3c5,308",
  "1:3bf,301 1:3c5,301 1:3c9,301 5:3d2,301 1:3d2,308 2c:415,300 1:415,308 2:413,301 4:406,308 5:41a,301",
  "1:418,300 1:423,306 b:418,306 20:438,306 17:435,300 1:435,308 2:433,301 4:456,308 5:43a,301 1:438,300",
  "1:443,306 18:474,30f 1:475,30f 4a:416,306 1:436,306 e:410,306 1:430,306 1:410,308 1:430,308 3:415,306",
  "1:435,306 3:4d8,308 1:4d9,308 1:416,308 1:436,308 1:417,308 1:437,308 3:418,304 1:438,304 1:418,308",
  "1:438,308 1:41e,308 1:43e,308 3:4e8,308 1:4e9,308 1:42d,308 1:44d,308 1:423,304 1:443,304 1:423,308",
  "1:443,308 1:423,30b 1:443,30b 1:427,308 1:447,308 3:42b,308 1:44b,308 129:627,653 1:627,654 1:648,654",
  "1:627,655 1:64a,654 9a:6d5,654 2:6c1,654 11:6d2,654 256:928,93c 8:930,93c 3:933,93c 97:9c7,9be 1:9c7,9d7",
  "17c:b47,b56 3:b47,b3e 1:b47,b57 48:b92,bd7 36:bc6,bbe 1:bc7,bbe 1:bc6,bd7 7c:c46,c56 78:cbf,cd5 7:cc6,cd5",
  "1:cc6,cd6 2:cc6,cc2 1:cca,cd5 7f:d46,d3e 1:d47,d3e 1:d46,d57 8e:dd9,dca 2:dd9,dcf 1:ddc,dca 1:dd9,ddf",
  "248:1025,102e ae0:1b05,1b35 2:1b07,1b35 2:1b09,1b35 2:1b0b,1b35 2:1b0d,1b35 4:1b11,1b35 29:1b3a,1b35",
  "2:1b3c,1b35 3:1b3e,1b35 1:1b3f,1b35 2:1b42,1b35 2bd:41,325 1:61,325 1:42,307 1:62,307 1:42,323 1:62,323",
  "1:42,331 1:62,331 1:c7,301 1:e7,301 1:44,307 1:64,307 1:44,323 1:64,323 1:44,331 1:64,331 1:44,327 1:64,327",
  "1:44,32d 1:64,32d 1:112,300 1:113,300 1:112,301 1:113,301 1:45,32d 1:65,32d 1:45,330 1:65,330 1:228,306",
  "1:229,306 1:46,307 1:66,307 1:47,304 1:67,304 1:48,307 1:68,307 1:48,323 1:68,323 1:48,308 1:68,308 1:48,327",
  "1:68,327 1:48,32e 1:68,32e 1:49,330 1:69,330 1:cf,301 1:ef,301 1:4b,301 1:6b,301 1:4b,323 1:6b,323 1:4b,331",
  "1:6b,331 1:4c,323 1:6c,323 1:1e36,304 1:1e37,304 1:4c,331 1:6c,331 1:4c,32d 1:6c,32d 1:4d,301 1:6d,301",
  "1:4d,307 1:6d,307 1:4d,323 1:6d,323 1:4e,307 1:6e,307 1:4e,323 1:6e,323 1:4e,331 1:6e,331 1:4e,32d 1:6e,32d",
  "1:d5,301 1:f5,301 1:d5,308 1:f5,308 1:14c,300 1:14d,300 1:14c,301 1:14d,301 1:50,301 1:70,301 1:50,307",
  "1:70,307 1:52,307 1:72,307 1:52,323 1:72,323 1:1e5a,304 1:1e5b,304 1:52,331 1:72,331 1:53,307 1:73,307",
  "1:53,323 1:73,323 1:15a,307 1:15b,307 1:160,307 1:161,307 1:1e62,307 1:1e63,307 1:54,307 1:74,307 1:54,323",
  "1:74,323 1:54,331 1:74,331 1:54,32d 1:74,32d 1:55,324 1:75,324 1:55,330 1:75,330 1:55,32d 1:75,32d 1:168,301",
  "1:169,301 1:16a,308 1:16b,308 1:56,303 1:76,303 1:56,323 1:76,323 1:57,300 1:77,300 1:57,301 1:77,301",
  "1:57,308 1:77,308 1:57,307 1:77,307 1:57,323 1:77,323 1:58,307 1:78,307 1:58,308 1:78,308 1:59,307 1:79,307",
  "1:5a,302 1:7a,302 1:5a,323 1:7a,323 1:5a,331 1:7a,331 1:68,331 1:74,308 1:77,30a 1:79,30a 2:17f,307 5:41,323",
  "1:61,323 1:41,309 1:61,309 1:c2,301 1:e2,301 1:c2,300 1:e2,300 1:c2,309 1:e2,309 1:c2,303 1:e2,303",
  "1:1ea0,302 1:1ea1,302 1:102,301 1:103,301 1:102,300 1:103,300 1:102,309 1:103,309 1:102,303 1:103,303",
  "1:1ea0,306 1:1ea1,306 1:45,323 1:65,323 1:45,309 1:65,309 1:45,303 1:65,303 1:ca,301 1:ea,301 1:ca,300",
  "1:ea,300 1:ca,309 1:ea,309 1:ca,303 1:ea,303 1:1eb8,302 1:1eb9,302 1:49,309 1:69,309 1:49,323 1:69,323",
  "1:4f,323 1:6f,323 1:4f,309 1:6f,309 1:d4,301 1:f4,301 1:d4,300 1:f4,300 1:d4,309 1:f4,309 1:d4,303 1:f4,303",
  "1:1ecc,302 1:1ecd,302 1:1a0,301 1:1a1,301 1:1a0,300 1:1a1,300 1:1a0,309 1:1a1,309 1:1a0,303 1:1a1,303",
  "1:1a0,323 1:1a1,323 1:55,323 1:75,323 1:55,309 1:75,309 1:1af,301 1:1b0,301 1:1af,300 1:1b0,300 1:1af,309",
  "1:1b0,309 1:1af,303 1:1b0,303 1:1af,323 1:1b0,323 1:59,300 1:79,300 1:59,323 1:79,323 1:59,309 1:79,309",
  "1:59,303 1:79,303 7:3b1,313 1:3b1,314 1:1f00,300 1:1f01,300 1:1f00,301 1:1f01,301 1:1f00,342 1:1f01,342",
  "1:391,313 1:391,314 1:1f08,300 1:1f09,300 1:1f08,301 1:1f09,301 1:1f08,342 1:1f09,342 1:3b5,313 1:3b5,314",
  "1:1f10,300 1:1f11,300 1:1f10,301 1:1f11,301 3:395,313 1:395,314 1:1f18,300 1:1f19,300 1:1f18,301 1:1f19,301",
  "3:3b7,313 1:3b7,314 1:1f20,300 1:1f21,300 1:1f20,301 1:1f21,301 1:1f20,342 1:1f21,342 1:397,313 1:397,314",
  "1:1f28,300 1:1f29,300 1:1f28,301 1:1f29,301 1:1f28,342 1:1f29,342 1:3b9,313 1:3b9,314 1:1f30,300 1:1f31,300",
  "1:1f30,301 1:1f31,301 1:1f30,342 1:1f31,342 1:399,313 1:399,314 1:1f38,300 1:1f39,300 1:1f38,301 1:1f39,301",
  "1:1f38,342 1:1f39,342 1:3bf,313 1:3bf,314 1:1f40,300 1:1f41,300 1:1f40,301 1:1f41,301 3:39f,313 1:39f,314",
  "1:1f48,300 1:1f49,300 1:1f48,301 1:1f49,301 3:3c5,313 1:3c5,314 1:1f50,300 1:1f51,300 1:1f50,301 1:1f51,301",
  "1:1f50,342 1:1f51,342 2:3a5,314 2:1f59,300 2:1f59,301 2:1f59,342 1:3c9,313 1:3c9,314 1:1f60,300 1:1f61,300",
  "1:1f60,301 1:1f61,301 1:1f60,342 1:1f61,342 1:3a9,313 1:3a9,314 1:1f68,300 1:1f69,300 1:1f68,301 1:1f69,301",
  "1:1f68,342 1:1f69,342 1:3b1,300 2:3b5,300 2:3b7,300 2:3b9,300 2:3bf,300 2:3c5,300 2:3c9,300 4:1f00,345",
  "1:1f01,345 1:1f02,345 1:1f03,345 1:1f04,345 1:1f05,345 1:1f06,345 1:1f07,345 1:1f08,345 1:1f09,345",
  "1:1f0a,345 1:1f0b,345 1:1f0c,345 1:1f0d,345 1:1f0e,345 1:1f0f,345 1:1f20,345 1:1f21,345 1:1f22,345",
  "1:1f23,345 1:1f24,345 1:1f25,345 1:1f26,345 1:1f27,345 1:1f28,345 1:1f29,345 1:1f2a,345 1:1f2b,345",
  "1:1f2c,345 1:1f2d,345 1:1f2e,345 1:1f2f,345 1:1f60,345 1:1f61,345 1:1f62,345 1:1f63,345 1:1f64,345",
  "1:1f65,345 1:1f66,345 1:1f67,345 1:1f68,345 1:1f69,345 1:1f6a,345 1:1f6b,345 1:1f6c,345 1:1f6d,345",
  "1:1f6e,345 1:1f6f,345 1:3b1,306 1:3b1,304 1:1f70,345 1:3b1,345 1:3ac,345 2:3b1,342 1:1fb6,345 1:391,306",
  "1:391,304 1:391,300 2:391,345 5:a8,342 1:1f74,345 1:3b7,345 1:3ae,345 2:3b7,342 1:1fc6,345 1:395,300",
  "2:397,300 2:397,345 1:1fbf,300 1:1fbf,301 1:1fbf,342 1:3b9,306 1:3b9,304 1:3ca,300 4:3b9,342 1:3ca,342",
  "1:399,306 1:399,304 1:399,300 3:1ffe,300 1:1ffe,301 1:1ffe,342 1:3c5,306 1:3c5,304 1:3cb,300 2:3c1,313",
  "1:3c1,314 1:3c5,342 1:3cb,342 1:3a5,306 1:3a5,304 1:3a5,300 2:3a1,314 1:a8,300 5:1f7c,345 1:3c9,345",
  "1:3ce,345 2:3c9,342 1:1ff6,345 1:39f,300 2:3a9,300 2:3a9,345 19e:2190,338 1:2192,338 13:2194,338 1f:21d0,338",
  "1:21d4,338 1:21d2,338 35:2203,338 5:2208,338 3:220b,338 18:2223,338 2:2225,338 1b:223c,338 3:2243,338",
  "3:2245,338 2:2248,338 17:3d,338 2:2261,338 b:224d,338 1:3c,338 1:3e,338 1:2264,338 1:2265,338 3:2272,338",
  "1:2273,338 3:2276,338 1:2277,338 7:227a,338 1:227b,338 3:2282,338 1:2283,338 3:2286,338 1:2287,338",
  "23:22a2,338 1:22a8,338 1:22a9,338 1:22ab,338 31:227c,338 1:227d,338 1:2291,338 1:2292,338 7:22b2,338",
  "1:22b3,338 1:22b4,338 1:22b5,338 d5f:304b,3099 2:304d,3099 2:304f,3099 2:3051,3099 2:3053,3099 2:3055,3099",
  "2:3057,3099 2:3059,3099 2:305b,3099 2:305d,3099 2:305f,3099 2:3061,3099 3:3064,3099 2:3066,3099 2:3068,3099",
  "7:306f,3099 1:306f,309a 2:3072,3099 1:3072,309a 2:3075,3099 1:3075,309a 2:3078,3099 1:3078,309a 2:307b,3099",
  "1:307b,309a 17:3046,3099 a:309d,3099 e:30ab,3099 2:30ad,3099 2:30af,3099 2:30b1,3099 2:30b3,3099 2:30b5,3099",
  "2:30b7,3099 2:30b9,3099 2:30bb,3099 2:30bd,3099 2:30bf,3099 2:30c1,3099 3:30c4,3099 2:30c6,3099 2:30c8,3099",
  "7:30cf,3099 1:30cf,309a 2:30d2,3099 1:30d2,309a 2:30d5,3099 1:30d5,309a 2:30d8,3099 1:30d8,309a 2:30db,3099",
  "1:30db,309a 17:30a6,3099 3:30ef,3099 1:30f0,3099 1:30f1,3099 1:30f2,3099 4:30fd,3099 d4cb:105d2,307",
  "1b:105da,307 ab6:11099,110ba 2:1109b,110ba f:110a5,110ba 83:11131,11127 1:11132,11127 21c:11347,1133e",
  "1:11347,11357 37:11382,113c9 2:11384,113bb 9:1138b,113c2 3:11390,113c9 34:113c2,113c2 2:113c2,113b8",
  "1:113c2,113c9 f3:114b9,114ba 1:114b9,114b0 2:114b9,114bd fc:115b8,115af 1:115b9,115af 37d:11935,11930",
  "47e9:1611e,1611e 1:1611e,16129 1:1611e,1611f 1:16129,1611f 1:1611e,16120 c43:16d67,16d67 1:16d63,16d67"]

def classOf (c : Char) : Nat := (classes.find? c.toNat).elim 0 fun e => ofHex e.value

/-! Syllables of the Korean alphabet are made of two or three letters by a rule. -/

def syllables : Nat := 0xAC00
def leads : Nat := 0x1100
def vowels : Nat := 0x1161
def tails : Nat := 0x11A7

def isSyllable (n : Nat) : Bool := syllables ≤ n && n < syllables + 19 * 21 * 28

def apart : Nat → Nat → List Nat
  | 0, n => [n]
  | fuel + 1, n =>
    if isSyllable n then
      let i := n - syllables
      [leads + i / 588, vowels + i % 588 / 28] ++ (if i % 28 = 0 then [] else [tails + i % 28])
    else match (pairs.find? n).map fun e => numbers e.value with
      | some [a, b] => apart fuel a ++ [b]
      | _ => [n]

def made : List (List Nat × Nat) := pairs.toList.map fun e => (numbers e.value, e.lo)

def together? (a b : Nat) : Option Nat :=
  if leads ≤ a && a < leads + 19 && vowels ≤ b && b < vowels + 21 then
    some (syllables + ((a - leads) * 21 + (b - vowels)) * 28)
  else if isSyllable a && (a - syllables) % 28 = 0 && tails < b && b < tails + 28 then some (a + (b - tails))
  else made.lookup [a, b]

/-- Puts a mark behind those that stand closer to the letter, in a text whose last character comes first. -/
def insertMark (c : Char) : List Char → List Char
  | [] => [c]
  | d :: rest => if classOf d > classOf c then d :: insertMark c rest else c :: d :: rest

def ordered (cs : List Char) : List Char :=
  ((cs.flatMap fun c => (apart 8 c.toNat).map Char.ofNat).foldl (fun back c =>
    if classOf c = 0 then c :: back else insertMark c back) []).reverse

/-- What has been put together: finished characters, last first, and a letter with what follows it, last first. -/
structure Progress where
  done : List Char
  letter : Option Char
  marks : List Char

def Progress.back (p : Progress) : List Char := p.marks ++ p.letter.toList ++ p.done

def step (p : Progress) (c : Char) : Progress :=
  let isFree := match p.marks with
    | [] => true
    | m :: _ => classOf m < classOf c
  let made := match p.letter with
    | some l => if isFree then together? l.toNat c.toNat else none
    | none => none
  match made with
  | some n => { p with letter := some (Char.ofNat n) }
  | none => if classOf c = 0 then ⟨p.back, some c, []⟩ else { p with marks := c :: p.marks }

def compose (cs : List Char) : List Char := ((ordered cs).foldl step ⟨[], none, []⟩).back.reverse

end Provision.Text.Composition
