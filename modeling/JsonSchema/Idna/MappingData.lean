/-!
# Compatibility mapping of names

What becomes of each code point of an international domain name: it is kept, dropped or replaced;
a code point listed nowhere may not occur. Numbers are in base 36.
-/

namespace JsonSchema.Idna.MappingData

/-- Code points that a name may hold as they are, as runs: a gap, then a length, in turn. -/
def kept : String :=
  "0 1t q 11 x 7 1 1 1 2 1 1 1 2 4 2 3 1 3 1 n 1 7 x 1 1 1 1 1 1 1 1 1 1 1 1 1 1 1 1 1 1 1 1 1 1
  1 1 1 1 1 1 1 1 1 1 1 1 1 1 1 1 1 1 1 1 1 1 1 1 1 1 1 1 3 1 1 2 1 1 1 1 1 1 3 1 1 1 1 1 1 1 2
  1 1 1 1 1 1 1 1 1 1 1 1 1 1 1 1 1 1 1 1 1 1 1 1 1 1 1 1 1 1 1 1 1 1 1 1 1 1 1 1 1 1 1 1 1 2 1
  1 1 1 1 1 1 2 1 1 1 2 1 3 2 4 1 2 1 3 3 2 1 2 1 1 1 1 1 2 1 1 2 1 1 2 1 3 1 1 1 2 3 1 7 a 1 1
  1 1 1 1 1 1 1 1 1 1 1 1 2 1 1 1 1 1 1 1 1 1 1 1 1 1 1 1 1 1 2 4 1 3 1 1 1 1 1 1 1 1 1 1 1 1 1
  1 1 1 1 1 1 1 1 1 1 1 1 1 1 1 1 1 1 1 1 1 1 1 1 1 1 1 1 1 1 1 1 1 1 1 1 1 1 1 1 1 1 1 1 1 7 2
  1 2 2 1 1 4 1 1 1 1 1 1 1 1 2p 9 v 6 2 5 2j 2 1 3 9 1 w 1 1 1 1 1 1 1 1 3 3 i 1 r z 8 1 1 1 1
  1 1 1 1 1 1 1 1 1 1 1 1 1 1 1 1 1 1 1 1 1 3 1 2 1 1 1 2 2 1f 1c 1 1 1 1 1 1 1 1 1 1 1 1 1 1 1
  1 1 1 1 1 1 1 1 1 1 1 1 1 1 1 1 1 1 9 1 1 1 1 1 1 1 1 1 1 1 1 1 1 1 1 1 1 1 1 1 1 1 1 1 1 1 1
  1 1 1 1 1 1 1 1 1 1 1 1 1 1 1 1 1 1 1 1 1 1 1 1 1 1 2 1 1 1 1 1 1 1 1 1 1 1 1 2 1 1 1 1 1 1 1
  1 1 1 1 1 1 1 1 1 1 1 1 1 1 1 1 1 1 1 1 1 1 1 1 1 1 1 1 1 1 1 1 1 1 1 1 1 1 1 1 1 1 1 1 1 1 1
  1 1 1 1 1 1 1 1 1 1 1 1 1 1 1 1 1 1 1 1 1 1 1 1 1 1 1 1 1 1 1 1 1 1 1 1 1 1 1 1 1 1 15 1a 1 3
  2 3 1 1j 8 r 4 6 h m 1 2g 4 2s 1 1c 2 1n 2 2t e 1n 2 1d 2 f 1 s 2 1 1 b 5 w 7 23 1 39 8 10 1 8
  2 2 2 m 1 7 1 1 3 4 2 9 2 2 2 4 8 1 8 4 2 p 2 3 1 6 4 2 2 m 1 7 1 1 2 1 2 2 2 1 1 5 4 2 2 3 3
  1 a 1 9 h a 3 1 9 1 3 1 m 1 7 1 2 1 5 2 a 1 3 1 3 2 1 f 4 2 c 7 7 1 3 1 8 2 2 2 m 1 7 1 2 1 5
  2 9 2 2 2 3 7 3 7 5 2 i a 2 1 6 3 3 1 4 3 2 1 1 1 2 3 2 3 3 3 c 4 5 3 3 1 4 2 1 6 1 e l 5 d 1
  3 1 n 1 g 2 9 1 3 1 4 7 2 1 3 1 2 2 4 2 a 7 m 1 3 1 n 1 a 1 5 2 9 1 3 1 4 7 2 5 3 1 4 2 a 1 3
  c d 1 3 1 1f 1 3 1 6 4 g 2 q 1 3 1 i 3 o 1 9 1 1 2 7 3 1 4 6 1 1 1 8 6 a 2 3 c 1e 1 7 4 t 11 2
  1 1 1 5 1 o 1 1 1 c 1 a 2 5 1 1 1 7 1 a 4 2 w c 1 1i 1 4 1 4 1 4 1 4 1 4 1 c 1 3 4 2 1 1 5 7 1
  h 1 4 1 4 1 4 1 4 1 4 1 c 1 3 1 f 1 d 11 4g 1c 18 1 2q 2 6g 1 4 2 7 1 1 1 4 2 15 1 4 2 x 1 4 2
  7 1 1 1 4 2 f 1 1l 1 4 2 1v 2 w 3 q 6 2e a hs 1 s 3 2h 7 m 9 o 9 k c d 1 3 1 2 c 1g 2 14 2 a 6
  a 6 b 5 a 6 2h 7 17 5 1y a v 1 c 4 c 4 1 3 16 2 5 b 18 4 q 6 b 3 1q 2 1t 1 t 2 b 6 a 6 e 2 1a
  2 c k 25 1 4m 8 1o 3 f 3 1f a 1 1h 8 8 17 5 18 3 1 b 1 i 1 s d 1 y 11 1s 1 1 1 1 1 1 1 1 1 1 1
  1 1 1 1 1 1 1 1 1 1 1 1 1 1 1 1 1 1 1 1 1 1 1 1 1 1 1 1 1 1 1 1 1 1 1 1 1 1 1 1 1 1 1 1 1 1 1
  1 1 1 1 1 1 1 1 1 1 1 1 1 1 1 1 1 1 1 1 1 1 1 1 1 1 1 1 1 1 1 1 1 1 1 1 1 1 1 1 1 1 1 1 1 1 1
  1 1 1 1 1 1 1 1 1 1 1 1 1 1 1 1 1 1 1 1 1 1 1 1 1 1 1 1 1 1 1 1 1 1 1 1 1 1 1 1 1 1 1 1 5 2 2
  1 1 1 1 1 1 1 1 1 1 1 1 1 1 1 1 1 1 1 1 1 1 1 1 1 1 1 1 1 1 1 1 1 1 1 1 1 1 1 1 1 1 1 1 1 1 1
  1 1 1 1 1 1 1 1 1 1 1 1 1 1 1 1 1 1 1 1 1 1 1 1 1 1 1 1 1 1 1 1 1 1 1 1 1 1 1 1 1 1 1 1 1 1 1
  1 1 1 9 8 6 a 8 8 8 8 6 a 8 8 8 8 1 1 1 1 1 1 1 1 1 1 1 1 1 1f 2 4 1 f 1 9 3 3 2 8 3 1 4 e 1 l
  2 2 1 1 5 1 c 3 1 8 3 2 1 2 4 1 1 1 8 3 d 1 7 1t 8 1 p e x j 1 3 1 b 1 2 2 5 2 3 1 1 1 1 1 1 1
  4 1 b 1 6 4 5 6 1c 3 1 5 1 2 4 4c 2 1 2 6w 2 73 m b 4g 10h 1 2v 3 2t 1 47 2 3u 1c 1c 1 1 3 2 1
  1 1 1 1 1 4 1 1 2 1 6 5 1 1 1 1 1 1 1 1 1 1 1 1 1 1 1 1 1 1 1 1 1 1 1 1 1 1 1 1 1 1 1 1 1 1 1
  1 1 1 1 1 1 1 1 1 1 1 1 1 1 1 1 1 1 1 1 1 1 1 1 1 1 1 1 1 1 1 1 1 1 1 1 1 1 1 1 1 1 1 1 1 1 1
  1 1 1 1 1 1 1 1 1 1 1 1 1 1 1 1 8 1 1 1 4 1 1 5 19 1 1 5 1 2 1k 8 1 e o 9 7 1 7 1 7 1 7 1 7 1
  7 1 7 1 7 1 3i y q 1 4 1 2b 7i 1 1 1f 1 1 3 5 1 2e 2 2 2 2 1 2n 6 17 2o 2 e 1y a g 20 8 1b 1
  ao m8d 3 1j 9 9o l 1 1 1 1 1 1 1 1 1 1 1 1 1 1 1 1 1 1 1 1 1 1 1 1 1 1 1 1 1 1 1 1 1 1 1 1 1 1
  1 1 1 1 1 1 j 1 1 1 1 1 1 1 1 1 1 1 1 1 1 1 1 1 1 1 1 1 1 1 1 1 1 1 1 2 2i 8 y 1 1 1 1 1 1 1 1
  1 1 1 1 1 3 1 1 1 1 1 1 1 1 1 1 1 1 1 1 1 1 1 1 1 1 1 1 1 1 1 1 1 1 1 1 1 1 1 1 1 1 1 1 1 1 1
  1 1 1 1 1 1 1 1 1 1 1 1 1 1 1 1 1 1 1 1 1 1 8 1 1 1 1 2 1 1 1 1 1 1 1 1 4 1 1 1 2 1 1 1 3 1 1
  1 1 1 1 1 1 1 1 1 1 1 1 1 1 1 1 1 1 5 1 5 1 1 1 1 1 1 1 1 1 1 1 1 1 1 1 4 1 1 1 2 1 1 1 1 1 1
  1 1 1 1 1 1 1 1 1 q 2 2 1f 3 a 6 1k 8 1y 8 c 6 38 b u 3 26 1 b 4 x 1 1j 9 e 2 a 2 2v o s a 6 2
  6 2 6 9 7 1 7 1 18 4 9 1 2 2c 1a 2 a 6 8mc c n 4 1d 6qa 2 1 1 1 2 a 1 1 1 1 2 2 3 6s 1 43 x a3
  i 1s 2 1i 8 19 3 w g l 2 18 1 b0 c 1 q 1 j 1 2 1 f 2 e y 3f 5 3 4 19 3 2g 1 d 3 1 1b 1a 3m t 3
  1d f s 4 10 9 u 5 17 5 u 1 11 4 e 2a 3a 2 a 1a 10 4 14 8 1g b 1 13 b 1 f 1 7 1 2 3 1g c 8n 9 m
  a 8 o 1 3j 6 2 1 1 18 1 2 3 1 2 n 1 20 8 9 1c j 1 2 5 x 3 r 5 r 12 1k 4 k 2 1e 1 2 5 8 1 3 1 t
  2 3 4 a 7 9 7 1s w 13 4 c 9 1i 3 t 2 r 5 q 7 4 c 7 28 21 3b 1f 7 1a 8 a 6 g p t 8 2 5s v 1 16
  1 3 2 2 g 6 8 9 x 1a 8 16 m q 12 s k n 9 26 4 10 9 1q 1 5 d p 7 a 6 1h 1 i 8 13 9 2o 1 k b i 1
  1b 1q 7 1 1 1 4 1 f 1 b 6 1n 5 a 6 4 1 8 2 2 2 m 1 7 1 2 1 5 1 a 2 2 2 3 2 1 6 1 5 7 2 7 3 5 b
  a 1 1 2 1 1 12 1 a 1 1 2 1 1 4 1 a 1 2 8 2 t 2k 1 5 u 20 8 a 4m 1i 2 12 y 1x b a 6 d j 1m 6 a
  6 k s r 2 f 4 n 55 1o 3o 1f c 8 2 1 2 8 1 2 1 u 1 2 2 c 9 a 1y 8 2 1a 2 b r 20 8 2b d 21 7 a
  2e 8 2g y e a 6 9 1 19 1 e a t 3 w 2 m 1 e 21 7 1 2 1 18 3 1 1 2 1 9 8 a 6 6 1 2 1 11 1 2 1 6
  7 a 6 18 4 a 6u p 7 h 1 15 3 t 2d 1 f 1e d pn 2u 33 1 5 b 5g 218 2r d ts g m a 32z 5 g7 5a1 1m
  1c6 ft 7 v 1 a 4 29 1 a 6 u 2 6 a 1y a a 1 7 1 l 5 j c0 1m 6e 1n w p 18 23 4 1l 7 h 1s 5 b 7 9
  5p2 15 w 2p 37 6pp 4 1 7 1 2 1 83 f 1 t 3 2 1 e 4 8 b0 1s4 2z 5 d 3 9 7 a 2 4 31c 5y 10 3 3 c4
  6 n f h f 1a 2 n 9 38 1o 6u a 13 2 1h 7 e 8 1s 6 16 l 1y 3e k c k c 2f 9 p w7 i4 f 5 1 f uo v
  6 6 5x 7 1 h 2 7 1 2 1 5 2s 1 34 19 3 e 2 a 4 2 8w v h 1m 5 1 cw 16 5y 17 4 1 5c v 1 m 8 2 68
  7 1 4 1 2 1 f 1 5h 2 g 23 16 4 a 4 2 lt 1w 24 1p c2 2 7i 18 4 2s c f 2 f 1 f 1 11 l 5 v 1 w q
  3 z 1 t 1k q 2o 6 4a rd 3 h 3 d 3 62 6 c 4 1 f c 4 1k 8 a 6 14 8 u 2 c 4 2 e 9 13 9k 8 e 2 d 3
  b 3 1l 1 1 4 g 2 c 4 a 7 43 1 2k a 1 sl wyo w 3dq 2 4ge 2 5rl f ha 3he 3t7 5 6ju"

/-- Code points that are dropped, as runs. -/
def dropped : String :=
  "4t 1 ip 1 2rz 2 18z 2 2d 5 1kr 1 2c 5 5 6 3ck 1 14ez g 6n 1 4g 1 11bz 4 43z 8 h479 6o"

/-- Code points that become one other: the first, what it becomes, and for a row of them how many
and at what step. -/
def single : String :=
  "1t.2p.q 4g.w 4q.2p 4y.1e.2 51.qk 55.1d 56.33 5c.68.n 60.6w.7 74.75.o.2 8k.8l.2.2 8p.8q.3.2
  8x.8y.4.2 96.97.n.2 ag.73 ah.ai.3.2 an.37 ap.gj aq.ar.2.2 au.gk av.aw ax.gm.2 az.b0 b2.d9
  b3.gp b4.gr b5.b6 b7.gw b8.gz ba.h5 bb.h4 bc.bd bg.hb bh.he bj.hh bk.bl.3.2 bq.hs br.bs bt.hv
  bw.bx by.i0 bz.c0 c1.i2.2 c3.c4.2.2 c7.ia c8.c9 cc.cd ct.cu.8.2 da.db.9.2 dw.dx dy.b9 dz.cf
  e0.e1.k.2 f4.bi f6.f7.9.2 fu.8rp fv.fw fx.be fy.8rq g1.g2 g3.ao g4.i1 g5.i4 g6.g7.5.2
  j4.2w.2.2 j5.h2 j7.36 j8.hl j9.hn ja.ht jb.3b jc.3d kg.gz kh.30 ki.37 kj.3c kk.id n4.lc.2
  n7.lv n9.qh og.oh.2.2 ok.jd om.on ou.1n ov.s3 p2.q4 p3.53 p4.q5.3 p8.r0 pa.r1.2 pd.q9.h
  pv.qr.9 r3.rb r4.qa r5.qg r6.qt r7.r1 r8.qz r9.qu ra.qo rc.rd.c.2 s0.qi s1.qp s2.qr s4.qg
  s5.qd s7.s8 s9.qr sa.sb sd.or.3 sg.uo.g sw.ts.w v4.v5.h.2 wa.wb.r.2 xs.y7 xt.xu.7.2 y8.y9.1c.2
  10x.129.12 2z0.2yz 3a8.8w0.12 3bb.8x3 3bh.8x9 3cs.3bw 3y0.3xs.6 5mo.tu 5mp.tw 5mq.u6 5mr.u9.2
  5mt.ua 5mu.ui 5mv.v7 5mw.wuj 5mx.5my 5n4.3bk.17 5od.3ct.3 5rg.2p 5rh.6e 5ri.2q.2.2 5rl.2t.5.2
  5rm.d9 5ro.2w.4.2 5rw.33 5rx.f7 5ry.34 5rz.36 5s0.38.2 5s2.3b 5s3.2p 5s4.gg.2 5s6.5qa 5s7.2q
  5s8.2s.2 5sa.gp 5sb.gr.2 5sd.2v 5sf.2z 5sg.31.2.2 5sh.97 5sj.gk 5sk.5qu.2 5sm.34 5sn.38.2
  5sp.5r1 5sq.hb 5sr.3a 5ss.5r9 5st.qa.3 5sw.qu.2 5sy.2x 5sz.36 5t0.39.2 5t2.qa.2 5t4.qp
  5t5.qu.2 5tk.u5 5uj.gi 5uk.2r 5ul.gl 5um.6o 5un.gs 5uo.2u 5up.gv 5uq.gx 5ur.h1 5us.h4.3
  5uv.5tn 5uw.il 5ux.h9 5uy.5tx 5uz.in 5v0.hd 5v1.hc 5v2.he.4 5v6.hk 5v7.hu.2 5v9.bv 5va.i1.2
  5vc.5r0 5vd.i3.2 5vf.3e 5vg.i8.3 5vj.qg 5xc.5xd.23.2 61n.601 61q.67 61s.61t.1c.2 64o.64g.8
  654.64w.6 65k.65c.8 660.65s.8 66g.668.6 66x.66p.4.2 67c.674.8 67l.q4 67n.q5 67p.q6 67r.q7
  67t.r0 67v.r1 67x.r2 69k.69c.2 69m.67k 69n.q4 69q.qh 6a0.67m.2.2 6a1.q5 6a3.q6 6ab.pc
  6ag.6a8.2 6ai.67q 6aj.q7 6ar.q8 6aw.6ao.2 6ay.67u 6az.r1 6b0.6at 6b3.2o 6bc.67s 6bd.r0.2.2
  6be.67w 6bk.w 6bl.w 6bm.w 6bn.w 6bo.w 6bp.w 6bq.w 6br.w 6bs.w 6bt.w 6bu.w 6c1.6c0 6cv.w 6e7.w
  6eo.1c 6ep.2x 6es.1g.6 6ey.17 6ez.6qa 6f0.1p 6f1.14.2 6f3.32 6f4.1c.a 6fe.17 6ff.6qa 6fg.1p
  6fh.14.2 6fk.2p 6fl.2t 6fm.33 6fn.3c 6fo.gp 6fp.2w 6fq.2z.4 6fu.34 6fv.37.2 6iq.2r 6iv.gr
  6iy.2v.2 6j0.2w 6j1.2w 6j2.2w 6j3.87 6j4.2x 6j5.2x 6j6.30 6j7.30.2.2 6jd.34.3 6jg.36 6jh.36
  6jo.3e 6jq.qx 6js.3e 6ju.2z 6jv.6d 6jw.2q.2 6jz.2t 6k0.2t.2 6k2.6ku 6k3.31 6k4.33 6k5.15c.4
  6k9.2x 6kc.qo 6kd.qb 6ke.qb 6kf.qo 6kg.6q9 6kl.2s 6km.2s.2 6ko.2x.2 6lc.2x 6lg.3a 6ll.3c
  6lo.30 6lp.2r.2 6lr.31 6ls.2x 6lw.3a 6m1.3c 6m4.30 6m5.2r.2 6m7.31 6mb.6mc 6y1.9hk.2 76o.1d.9
  792.2p.q 79s.2p.q 7ai.1c 8ow.8q8.1c 8rk.8rl 8rm.h7 8rn.5tp 8ro.hp 8rr.8rs.3.2 8rx.gh 8ry.hd
  8rz.gg 8s0.gi 8s2.8s3 8s5.8s6 8sc.2y 8sd.3a 8se.fz.2 8sg.8sh.1e.2 8vf.8vg.2.2 8vm.8vn 8z3.8yp
  97j.lal 99v.vj3 9a8.feo 9a9.ffs 9aa.fg6 9ab.fgf 9ac.fh5 9ad.fid 9ae.fik 9af.fj4 9ag.fju
  9ah.g1r 9ai.g2t 9aj.g2z 9ak.g3m 9al.g46 9am.g4r 9an.g68 9ao.g6t 9ap.g74 9aq.gbf 9ar.ge1
  9as.get 9at.gey 9au.gfs 9av.gg1 9aw.ggs 9ax.gh5 9ay.ghu 9az.gja 9b0.gjs 9b1.gkj 9b2.h5j
  9b3.h7j 9b4.hkb 9b5.hky 9b6.hl6 9b7.hlh 9b8.hlz 9b9.ho3 9ba.i1c 9bb.i2o 9bc.i60 9bd.i6n
  9be.i76 9bf.i7s 9bg.i9a 9bh.i9d 9bi.ijf 9bj.ijp 9bk.ik1 9bl.ike 9bm.inm 9bn.inu 9bo.inz
  9bp.ir8 9bq.iri 9br.irv 9bs.is3 9bt.its 9bu.iu9 9bv.iur 9bw.iwz 9bx.jd4 9by.jee 9bz.jez
  9c0.jzj 9c1.jzo 9c2.k1z 9c3.k2f 9c4.k2s 9c5.k3d 9c6.k4g 9c7.k4l 9c8.kc0 9c9.kco 9ca.kdk
  9cb.l5s 9cc.l7m 9cd.l89 9ce.l9v 9cf.laj 9cg.las 9ch.laz 9ci.lcf 9cj.lck 9ck.ldg 9cl.m7f
  9cm.mju 9cn.mk6 9co.mkb 9cp.mkf 9cq.mkn 9cr.ml5 9cs.ml7 9ct.mng 9cu.mtg 9cv.mtl 9cw.n30
  9cx.n3a 9cy.n4o 9cz.n4v 9d0.n54 9d1.n5c 9d2.n7v 9d3.n82 9d4.nee 9d5.nel 9d6.nfy 9d7.ngf
  9d8.nhq 9d9.nob 9da.noi 9db.noz 9dc.ny2 9dd.o1k 9de.o1q 9df.o6s 9dg.o97 9dh.oah 9di.okz
  9dj.ooo 9dk.p4m 9dl.p5d 9dm.p6y 9dn.p8d 9do.pa9 9dp.pak 9dq.paq 9dr.pbn 9ds.pdr 9dt.pe1
  9du.pnn 9dv.pnu 9dw.po3 9dx.poc 9dy.pos 9dz.pp7 9e0.ppb 9e1.pri 9e2.prm 9e3.prs 9e4.qj1
  9e5.qjv 9e6.qww 9e7.qx8 9e8.qxv 9e9.r5q 9ea.r63 9eb.r82 9ec.r9c 9ed.rp3 9ee.rpi 9ef.rpx
  9eg.rqw 9eh.rrx 9ei.rxg 9ej.rxs 9ek.rzn 9el.s6j 9em.s7e 9en.sd7 9eo.sds 9ep.sdx 9eq.sk1
  9er.sp5 9es.ssm 9et.sss 9eu.ssx 9ev.tiv 9ew.tj4 9ex.tng 9ey.trq 9ez.trt 9f0.tt4 9f1.tw1
  9f2.twe 9f3.twi 9f4.twp 9f5.tzf 9f6.u0d 9f7.u0j 9f8.u0x 9f9.u5k 9fa.u6z 9fb.u73 9fc.uc6
  9fd.uc9 9fe.ucs 9ff.ujs 9fg.ul4 9fh.ulb 9fi.un9 9fj.unj 9fk.unm 9fl.unw 9fm.uoq 9fn.uzp
  9fo.vat 9fp.vb3 9fq.vc5 9fr.vcr 9fs.vcz 9ft.vd9 9fu.vdd 9fv.veh 9fw.vel 9fx.vf2 9fy.vf7
  9fz.vfk 9g0.vgb 9g1.vgq 9g2.vgy 9g3.vil 9g4.vj0 9g5.vj4 9hc.w 9he.1a 9iu.9hu 9iw.gg1 9ix.gg4.2
  9pt.3cw.2 9pv.3hm.2.2 9pw.3cy 9py.3hp 9pz.3cz.3 9q2.3hs.6 9q8.3dm 9q9.3d2.3 9qc.3dt 9qd.3d5.a
  9qn.3fl.l 9r9.3dg.2 9rb.3if.2 9rd.3ik 9re.3im 9rf.3ir 9rg.3iv 9rh.3ix 9ri.3do 9rj.3j1 9rk.3j3
  9rl.3dp.2 9rn.3ds 9ro.3du.2 9rq.3dz 9rr.3e1 9rs.3e3.5 9rx.3ea 9ry.3ee 9rz.3eo 9s0.3ev 9s1.3f0
  9s2.3jl.2 9s4.3fb.3 9s7.3gk.2 9s9.3go 9sa.3gx.2 9sc.3h0 9sd.3ha 9se.3hd 9si.feo 9sj.fik
  9sk.fex 9sl.h5n 9sm.fey 9sn.ffx 9so.fez 9sp.n5e 9sq.fh5 9sr.ffd 9ss.fep 9st.hm1 9su.h80
  9sv.fju 9xg.gun 9xh.inw 9xi.k1z 9xj.oen 9y8.3cw 9y9.3cy.2 9yb.3d1.3 9ye.3d5 9yf.3d7.2
  9yh.3da.5 9ym.xz4 9yn.yvs 9yo.zc4 9yp.108s 9yq.10p4 9yr.115g 9ys.1224 9yt.12ys 9yu.13f4
  9yv.14bs 9yw.14s4 9yx.158g 9yy.15os 9yz.1654 9z2.138w 9z4.feo 9z5.fik 9z6.fex 9z7.h5n 9z8.fis
  9z9.g31 9za.fer 9zb.g2z 9zc.fh9 9zd.gg1 9ze.kco 9zf.m7f 9zg.ldg 9zh.kdk 9zi.ssx 9zj.h7j
  9zk.k4l 9zl.kkq 9zm.kcp 9zn.ny6 9zo.glp 9zp.mm1 9zq.rs1 9zr.nz1 9zs.gc4 9zt.o2g 9zu.n5j
  9zv.ho3 9zw.six 9zx.g16 9zy.ghc 9zz.lig a00.u11 a01.fm9 a02.g49 a03.l7n a04.fey a05.ffx
  a06.fez a07.ijq a08.gkz a09.gfv a0a.i3b a0b.i1y a0c.nhf a0d.flt a0e.rt3 a0f.ggk a0g.hlo
  a1c.9lu a1d.9lw a1e.9ly a1f.9m0 a1g.9m2.2 a1i.9m5 a1j.9m7 a1k.9m9 a1l.9mb a1m.9md a1n.9mf
  a1o.9mh a1p.9mj a1q.9ml a1r.9mn a1s.9mp a1t.9ms a1u.9mu a1v.9mw a1w.9my.6 a22.9n6 a23.9n9
  a24.9nc a25.9nf a26.9ni.5 a2b.9no a2c.9nq a2d.9ns.6 a2j.9nz.4 wu8.wu9.n.2 ww0.ww1.e.2 wws.ui
  wwt.uk x0i.x0j.7.2 x0y.x0z.v.2 x2o.x2n x2x.x2y.2.2 x31.5tl x32.x33.5.2 x3f.x3g x3h.h1
  x3k.x3l.2.2 x3q.x3r.a.2 x4a.h2 x4b.gs x4c.gx x4d.h8 x4e.h6 x4g.im x4h.hz x4i.il x4j.xub
  x4k.x4l.8.2 x50.x3o x51.hu x52.5u6 x53.x54.2.2 x57.h0 x58.x59.8.2 x5o.bf x69.37 x6a.2r x6b.2u
  x6c.35 x6d.x6e x6g.87 x6h.9f xuk.x0n xul.xtj xum.h7 xun.xua xux.i5 xv4.3vk.28 1d6o.rpk
  1d6p.kc4 1d6q.s7e 1d6r.rt4 1d6s.lw1 1d6t.fg2 1d6u.gkl 1d6v.vj0 1d6w.vj0 1d6x.hn5 1d6y.ssx
  1d6z.gw7 1d70.hmw 1d71.jcm 1d72.ne1 1d73.p6t 1d74.qin 1d75.qt6 1d76.r20 1d77.sjz 1d78.kxu
  1d79.ljv 1d7a.mah 1d7b.mvy 1d7c.q4d 1d7d.sq2 1d7e.uep 1d7f.fia 1d7g.ghh 1d7h.l50 1d7i.mjf
  1d7j.qi5 1d7k.v8e 1d7l.ifk 1d7m.m3v 1d7n.qfh 1d7o.r50 1d7p.jih 1d7q.pnc 1d7r.qvz 1d7s.iq2
  1d7t.kd3 1d7u.lm2 1d7v.mpo 1d7w.slq 1d7x.fpi 1d7y.g53 1d7z.gda 1d80.jwk 1d81.l3n 1d82.mj4
  1d83.nhj 1d84.pa9 1d85.qh2 1d86.qjg 1d87.s1b 1d88.tv6 1d89.upb 1d8a.v7e 1d8b.nt8 1d8c.nzz
  1d8d.otc 1d8e.q15 1d8f.t1g 1d8g.vb3 1d8h.rfa 1d8i.hjz 1d8j.iro 1d8k.okg 1d8l.pdq 1d8m.mle
  1d8n.nuy 1d8o.rsy 1d8p.ttj 1d8q.hjs 1d8r.i8y 1d8s.kyb 1d8t.lp6 1d8u.lxr 1d8v.oq7 1d8w.oxj
  1d8x.tor 1d8y.gcy 1d8z.pe3 1d90.g64 1d91.g5o 1d92.o4c 1d93.ou6 1d94.q29 1d95.tpx 1d96.rk0
  1d97.jin 1d98.kxu 1d99.rge 1d9a.fg9 1d9b.i5j 1d9c.iz6 1d9d.mtj 1d9e.n74 1d9f.gev 1d9g.nwb
  1d9h.fr3 1d9i.iw9 1d9j.ff1 1d9k.lho 1d9l.k1k 1d9m.opu 1d9n.gjn 1d9o.hge 1d9p.ni9 1d9q.q4p
  1d9r.re2 1d9s.la2 1d9t.sds 1d9u.lfs 1d9v.jjy 1d9w.put 1d9x.jog 1d9y.n6t 1d9z.fji 1da0.g2x
  1da1.g5l 1da2.kn5 1da3.oo7 1da4.prj 1da5.rf6 1da6.ssv 1da7.gdx 1da8.gn6 1da9.ho3 1daa.ir0
  1dab.k3p 1dac.m4e 1dad.nxm 1dae.tkd 1daf.ui2 1dag.vbr 1dah.vda 1dai.gbf 1daj.kau 1dak.l87
  1dal.sbm 1dam.ino 1dan.j9s 1dao.jcw 1dap.jve 1daq.lyb 1dar.mdl 1das.n0p 1dat.o22 1dau.ovo
  1dav.pdb 1daw.s9y 1dax.q9a 1day.sgz 1daz.t3e 1db0.g7r 1db1.gbn 1db2.gql 1db3.ma0 1db4.r0i
  1db5.re2 1db6.iq1 1db7.iyd 1db8.jnf 1db9.l9q 1dba.oji 1dbb.mt1 1dbc.fl0 1dbd.h6h 1dbe.i5j
  1dbf.iii 1dbg.izg 1dbh.muq 1dbi.mzt 1dbj.p7e 1dbk.pc6 1dbl.svo 1dbm.tti 1dbn.tvs 1dbo.u1k
  1dbp.fpn 1dbq.o1a 1dbr.ss4 1dbs.trs 1dbt.j4x 1dbu.fie 1dbv.fyy 1dbw.i5q 1dbx.i7z 1dby.k2h
  1dbz.kxu 1dc0.mha 1dc1.ncy 1dc2.q9o 1dc3.sjg 1dc4.vil 1dc5.k94 1dc6.tny 1dc7.gax 1dc8.kfv
  1dc9.kj7 1dca.lkx 1dcb.luk 1dcc.mx5 1dcd.n6h 1dce.nsb 1dcf.opc 1dcg.u3i 1dch.g31 1dci.je6
  1dcj.tq0 1dck.fu3 1dcl.ie1 1dcm.lpm 1dcn.sa2 1dco.ivf 1dcp.j7o 1dcq.kk7 1dcr.mtj 1dcs.tqe
  1dct.g89 1dcu.glr 1dcv.i91 1dcw.k5v 1dcx.kem 1dcy.ko8 1dcz.lid 1dd0.mx2 1dd1.naa 1dd2.p6h
  1dd3.r0v 1dd4.r1d 1dd5.sss 1dd6.tsy 1dd7.gfz 1dd8.lve 1dd9.gm5 1dda.mhc 1ddb.n14 1ddc.qgq
  1ddd.tr7 1dde.uvr 1ddf.vbz 1ddg.kgn 1ddh.lor 1ddi.pns 1ddj.o97 1ddk.obk 1ddl.olu 1ddm.mo0
  1ddn.m8p 1ddo.riw 1ddp.fk0 1ddq.px2 1ddr.g8q 1dds.g7b 1ddt.ip2 1ddu.jir 1ddv.onq 1ddw.i2t
  1ddx.ljy 1ddy.kac 1ddz.saj 1de0.qx8 1de1.tot 1de2.r63 1de3.iqb 1de4.g1s 1de5.gxs 1de8.hga
  1dea.k8k 1ded.g66 1dee.mqy 1def.ngq 1deg.ny4 1deh.nz2 1dei.nz9 1dej.o0f 1dek.tw6 1del.on2
  1dem.p8d 1deo.qhe 1deq.rg8 1det.shk 1deu.sn1 1dey.u7j 1dez.u7w 1df0.u94 1df1.v5g 1df2.sm6
  1df3.trr 1df4.fqm 1df5.fzb 1df6.g25 1df7.gcp 1df8.gdg 1df9.ggh 1dfa.gwt 1dfb.gzq 1dfc.h2g
  1dfd.hfk 1dfe.hig 1dff.i90 1dfg.i9a 1dfh.j2s 1dfi.j8o 1dfj.j9q 1dfk.jci 1dfl.k0f 1dfm.k4i
  1dfn.k9d 1dfo.kn9 1dfp.lmf 1dfq.lqy 1dfr.lya 1dfs.mem 1dft.mjv 1dfu.mxu 1dfv.ntd 1dfw.ny6
  1dfx.nyh 1dfy.nyg 1dfz.nyo 1dg0.nyu 1dg1.nz1 1dg2.o0d.2 1dg4.o5c 1dg5.o75 1dg6.og0 1dg7.ovo
  1dg8.ow9 1dg9.oxt 1dga.p6a 1dgb.pad 1dgc.pnx 1dgd.prt 1dge.prt 1dgf.q53 1dgg.r2o 1dgh.r6e
  1dgi.rgh 1dgj.ri1 1dgk.rtf 1dgl.ruw 1dgm.sdy 1dgn.shk 1dgo.tsz 1dgp.u0v 1dgq.u2j 1dgr.j1x
  1dgs.36cu 1dgt.pp4 1dgw.ffq 1dgx.g51 1dgy.g2w 1dgz.fpc 1dh0.g1x 1dh1.g3k 1dh2.gcn 1dh3.ge2
  1dh4.gwt 1dh5.gut 1dh6.gwp 1dh7.gyq 1dh8.hga 1dh9.hir 1dha.hms 1dhb.hn8 1dhc.huq 1dhd.i08
  1dhe.iqa 1dhf.iqh 1dhg.iuh 1dhh.iwd 1dhi.j4o 1dhj.j7y 1dhk.j60 1dhl.j9q 1dhm.j8g 1dhn.jci
  1dho.jec 1dhp.jpg 1dhq.jrw 1dhr.jte 1dhs.k0m 1dht.k8k 1dhu.kd3 1dhv.kd7 1dhw.keu 1dhx.l89
  1dhy.la2 1dhz.lkx 1di0.lwb 1di1.lvv 1di2.lya 1di3.m5a 1di4.mem 1di5.nmv 1di6.mk5 1di7.mnj
  1di8.mqy 1di9.n01 1dia.n46 1dib.n5n 1dic.nbx 1did.nbz 1die.ngq 1dif.nh7 1dig.nhw 1dih.nka
  1dii.nk0 1dij.nv0 1dik.o8h 1dil.og0 1dim.ol7 1din.orf 1dio.ovo 1dip.p4u 1diq.pad 1dir.pxu
  1dis.q27 1dit.qrd 1diu.r41 1div.r5y 1diw.r6e 1dix.ren 1diy.rg8 1diz.rez 1dj0.rgh 1dj1.rge
  1dj2.rfx 1dj3.ri1 1dj4.rka 1dj5.ruw 1dj6.sag 1dj7.sj6 1dj8.srd 1dj9.sxi 1dja.tq4 1djb.tsz
  1djc.tw6 1djd.tzv 1dje.u0v 1djf.u17 1djg.u2j 1djh.umq 1dji.vj0 1djj.313e 1djk.3138 1djl.33dh
  1djm.brx 1djn.cns 1djo.cop 1djp.39e1 1djq.3bgw 1djr.3i6r 1djs.vgj 1djt.vim 1dls.15u 1dlt.15c
  1dlu.15f.2 1dlw.15n.3 1dlz.160 1dm0.162 1dm1.17 1dn4.19t 1dn5.19t 1dn6.1a3 1dn7.1a3 1dn8.1a3
  1dn9.1a3 1dna.1a6 1dnb.1a6 1dnc.1a6.2.2 1dnd.1a6.2.2 1dng.1a8 1dnh.1a8 1dni.1a2 1dnj.1a2
  1dnk.1a2 1dnl.1a2 1dnm.1a7 1dnn.1a7 1dno.1a7 1dnp.1a7 1dnq.1a1 1dnr.1a1 1dns.1a1 1dnt.1a1
  1dnu.1b8 1dnv.1b8 1dnw.1b8.2.2 1dnx.1b8.2.2 1do0.1ba 1do1.1ba 1do2.1ac 1do3.1ac 1do4.1ac
  1do5.1ac 1do6.1ab 1do7.1ab 1do8.1ab 1do9.1ab 1doa.1ae 1dob.1ae 1doc.1ae 1dod.1ae.2 1dof.1af
  1dog.1af 1doh.1af 1doi.1al 1doj.1al 1dok.1ak.2.2 1dol.1ak.2.2 1doo.1ag 1dop.1ag 1doq.1aw
  1dor.1aw 1dos.1ap 1dot.1ap 1dou.1bd 1dov.1bd 1dow.1bd 1dox.1bd 1doy.1bj 1doz.1bj 1dp0.1bj
  1dp1.1bj 1dp2.1bn 1dp3.1bn 1dp4.1bn 1dp5.1bn 1dp6.1bl 1dp7.1bl 1dp8.1bl 1dp9.1bl 1dpa.1bu
  1dpb.1bu.2 1dpd.1bv 1dpe.1bv 1dpf.1bv 1dpg.1c0 1dph.1c0.2 1dpj.1c1 1dpk.1c1 1dpl.1c1 1dpm.1by
  1dpn.1by 1dpo.1by 1dpp.1by 1dpq.1ci 1dpr.1ci.2 1dpt.1cj 1dqr.1bh 1dqs.1bh 1dqt.1bh 1dqu.1bh
  1dqv.1c7 1dqw.1c7 1dqx.1c6.2.2 1dqy.1c6.2.2 1dr2.1cb 1dr3.1cb 1dr4.1c5 1dr5.1c5 1dr6.1c9
  1dr7.1c9 1dr8.1cg 1dr9.1cg 1dra.1cg 1drb.1cg 1drc.18p 1drd.18p 1drw.1cc 1drx.1cc 1dry.1cc
  1drz.1cc 1e6o.18 1e6p.9hd 1e6r.1m.2 1e6t.x 1e6u.1r 1e6v.9hy.2 1e7l.6c4 1e7m.6c3 1e7n.2n
  1e7o.2n 1e7p.14.2 1e7r.3f 1e7s.3h 1e7t.9hw.2 1e7v.9hs.2 1e7x.9hm.2 1e7z.9hk.2 1e81.9ho.4
  1e87.2j 1e88.2l 1e8d.2n 1e8e.2n 1e8f.2n 1e8g.18 1e8h.9hd 1e8k.1n 1e8l.1m 1e8m.1r 1e8n.x
  1e8o.6c4 1e8p.14.2 1e8r.3f 1e8s.3h 1e8t.9hw.2 1e8v.z 1e8w.12 1e8x.16.2 1e8z.19 1e90.1o 1e91.1q
  1e92.1p 1e94.2k 1e95.10.2 1e97.1s 1e9s.17l.2 1e9u.17m.2 1e9w.17n.2 1e9y.17o.2 1ea0.17p.2
  1ea2.17q 1ea3.17q 1ea4.17q.2 1ea6.17r.2 1ea8.17s 1ea9.17s 1eaa.17s.2 1eac.17t.2 1eae.17u
  1eaf.17u 1eag.17u.2 1eai.17v 1eaj.17v 1eak.17v.2 1eam.17w 1ean.17w 1eao.17w.2 1eaq.17x
  1ear.17x 1eas.17x.2 1eau.17y 1eav.17y 1eaw.17y.2 1eay.17z.2 1eb0.180.2 1eb2.181.2 1eb4.182.2
  1eb6.183 1eb7.183 1eb8.183.2 1eba.184 1ebb.184 1ebc.184.2 1ebe.185 1ebf.185 1ebg.185.2
  1ebi.186 1ebj.186 1ebk.186.2 1ebm.187 1ebn.187 1ebo.187.2 1ebq.188 1ebr.188 1ebs.188.2
  1ebu.189 1ebv.189 1ebw.189.2 1eby.18a 1ebz.18a 1ec0.18a 1ec1.18h 1ec2.18h 1ec3.18h 1ec4.18h.2
  1ec6.18i 1ec7.18i 1ec8.18i.2 1eca.18j 1ecb.18j 1ecc.18j.2 1ece.18k 1ecf.18k 1ecg.18k.2
  1eci.18l 1ecj.18l 1eck.18l.2 1ecm.18m 1ecn.18m 1eco.18m.2 1ecq.18n 1ecr.18n 1ecs.18n.2
  1ecu.18o.2 1ecw.18p.2 1ecy.18q 1ecz.18q 1ed0.18q 1edd.x.w 1ee9.2p.q 1eez.2j.10 1efz.879.2
  1eg1.1a 1eg2.9ho.2 1eg4.9hd 1eg5.9ob 1eg6.9o2 1eg7.9lt 1eg8.9lv 1eg9.9lx 1ega.9lz 1egb.9m1
  1egc.9nn 1egd.9np 1ege.9nr 1egf.9mr 1egg.9oc 1egh.9lu 1egi.9lw 1egj.9ly 1egk.9m0 1egl.9m2.2
  1egn.9m5 1ego.9m7 1egp.9m9 1egq.9mb 1egr.9md 1egs.9mf 1egt.9mh 1egu.9mj 1egv.9ml 1egw.9mn
  1egx.9mp 1egy.9ms 1egz.9mu 1eh0.9mw 1eh1.9my.6 1eh7.9n6 1eh8.9n9 1eh9.9nc 1eha.9nf 1ehb.9ni.5
  1ehg.9no 1ehh.9nq 1ehi.9ns.6 1eho.9nz 1ehp.9o3 1ehq.9ll.2 1eht.3cw.2 1ehv.3hm.2.2 1ehw.3cy
  1ehy.3hp 1ehz.3cz.3 1ei2.3hs.6 1ei8.3dm 1ei9.3d2.3 1eic.3dt 1eid.3d5.a 1eiq.3fl.6 1eiy.3fr.6
  1ej6.3fx.6 1eje.3g3.3 1ejk.4i.2 1ejm.4s 1ejo.4m 1ejp.4l 1ejq.6g9 1ejs.7b6 1ejt.6mo.4 1ejx.7fk
  1ejy.7gr 1fcw.1fe0.14 1fhs.1fiw.10 1fn4.1fo7.j.2 1fn5.1fo8.5.2 1fnh.1fok.7.2 1fnx.1fp0.3.2
  1fo5.1fp8 1g1t.k0.2 1g1v.6e 1g1w.ih 1g1x.gj 1g1z.ir.2.2 1g20.xuu 1g22.is 1g23.gm.2 1g25.5u9
  1g26.go 1g27.gu 1g28.ix 1g29.h0 1g2a.gy 1g2b.gw 1g2c.ij 1g2d.87 1g2e.ik 1g2f.h3 1g2g.hw
  1g2h.iy.2 1g2j.h8 1g2k.2mmc 1g2l.x3i 1g2m.ha 1g2n.2mmd 1g2o.i6 1g2p.2mme 1g2q.6w 1g2r.hi.2
  1g2t.35 1g2u.hm 1g2v.2mmg 1g2w.hp.2 1g2y.hs 1g2z.iw 1g30.iu 1g31.xuv 1g32.iv 1g33.i0 1g34.8s1
  1g36.i7 1g37.ip.2 1g39.ig 1g3a.cg.3 1g3d.2mmi 1g3e.2mn2 1h1c.1h34.1f 1h74.1h80.m 1jfk.1jgg.w
  20cg.20dc.w 20f4.20fv.p 2j12.2p.q 2j1s.1c.a 2kg0.2p.q 2kgq.2p.q 2khg.2p.q 2ki6.2p.d.2
  2ki7.2q.3.2 2kif.2y.9.2 2kiw.2p.q 2kjm.2p.q 2kkc.2p.2.2 2kkf.2s 2kki.2v 2kkl.2y.2 2kkp.32.4
  2kku.37.8 2kl2.2p.4 2kl7.2u.b.2 2kla.2x.3.2 2kli.35.5.2 2kls.2p.q 2kmi.2p.q 2kn8.2p.2
  2knb.2s.4 2knh.2y.8 2knq.37.7 2kny.2p.q 2koo.2p.2 2kor.2s.4 2kow.2x.5 2kp2.33 2kp6.37.7
  2kpe.2p.q 2kq4.2p.q 2kqu.2p.q 2krk.2p.q 2ksa.2p.q 2kt0.2p.q 2ktq.2p.q 2kug.2p.q 2kv6.2p.q
  2kvw.2p.q 2kwm.2p.q 2kxc.2p.q 2ky2.2p.q 2kys.8h 2kyt.fr 2kyw.q9.h 2kzd.qg 2kze.qr.7 2kzl.6pz
  2kzm.q9.h 2l03.qr 2l04.qr.7 2l0b.6pu 2l0c.qd 2l0d.qg 2l0e.qi 2l0f.qu 2l0g.qp 2l0h.qo 2l0i.q9.h
  2l0z.qg 2l10.qr.7 2l17.6pz 2l18.q9.h 2l1p.qr 2l1q.qr.7 2l1x.6pu 2l1y.qd 2l1z.qg 2l20.qi
  2l21.qu 2l22.qp 2l23.qo 2l24.q9.h 2l2l.qg 2l2m.qr.7 2l2t.6pz 2l2u.q9.h 2l3b.qr 2l3c.qr.7
  2l3j.6pu 2l3k.qd 2l3l.qg 2l3m.qi 2l3n.qu 2l3o.qp 2l3p.qo 2l3q.q9.h 2l47.qg 2l48.qr.7 2l4f.6pz
  2l4g.q9.h 2l4x.qr 2l4y.qr.7 2l55.6pu 2l56.qd 2l57.qg 2l58.qi 2l59.qu 2l5a.qp 2l5b.qo 2l5c.q9.h
  2l5t.qg 2l5u.qr.7 2l61.6pz 2l62.q9.h 2l6j.qr 2l6k.qr.7 2l6r.6pu 2l6s.qd 2l6t.qg 2l6u.qi
  2l6v.qu 2l6w.qp 2l6x.qo 2l6y.rh 2l6z.rh 2l72.1c.a 2l7c.1c.a 2l7m.1c.a 2l7w.1c.a 2l86.1c.a
  2muo.ts.9 2mux.u2.3 2mv0.u6.b 2mvb.uj 2mvc.ul.2 2mve.ww9 2mvf.yh 2mvg.uu 2mvh.uw 2mvi.yx
  2mvj.xb 2mvk.y7 2mvl.ts.9 2mvu.u2.2 2mvw.u6.2 2mvy.u9 2mvz.ub.6 2mw5.ui.2 2mw7.wh 2mw8.uu
  2mw9.ut 2mwa.v3 2mwb.x7 2mwc.wup 2mwd.xd 2olc.2oma.y 2pkw.17r.2 2pky.17w 2pkz.17z 2pl1.18o
  2pl2.182 2pl3.17x 2pl4.187 2pl5.18q 2pl6.18j.4 2pla.183 2plb.189 2plc.18h 2pld.185 2ple.18i
  2plf.181 2plg.184 2plh.17u.2 2plj.17y 2plk.180 2pll.186 2plm.188 2pln.18a 2plo.19q 2plp.1bu
  2plq.1b5 2plr.19r 2plt.17s 2plu.17w 2plw.18n 2plz.17x 2pm1.18q 2pm2.18j.4 2pm6.183 2pm7.189
  2pm8.18h 2pm9.185 2pma.18i 2pmc.184 2pmd.17u.2 2pmf.17y 2pmh.186 2pmj.18a 2pmq.17w 2pmv.17x
  2pmx.18q 2pmz.18k.2.2 2pn2.183 2pn3.189 2pn5.185 2pn6.18i 2pn8.184 2pnb.17y 2pnd.186 2pnf.18a
  2pnh.1bu 2pnj.19r 2pnl.17s 2pnm.17w 2pno.18n 2pnr.17x 2pns.187 2pnt.18q 2pnu.18j.2.2 2pnx.18m
  2pny.183 2pnz.189 2po0.18h 2po1.185 2po2.18i 2po4.184 2po5.17u.2 2po7.17y 2po9.186 2poa.188
  2pob.18a 2poc.19q 2poe.1b5 2pog.17r.2 2poi.17w 2poj.17z 2pok.18n.2 2pom.182 2pon.17x 2poo.187
  2pop.18q 2por.18k.3 2pou.183 2pov.189 2pow.18h 2pox.185 2poy.18i 2poz.181 2pp0.184 2pp1.17u.2
  2pp3.17y 2pp4.180 2pp5.186 2pp6.188 2pp7.18a 2ppd.17s 2ppe.17w 2ppf.17z 2pph.18o 2ppi.182
  2ppj.17x 2ppk.187 2ppl.18q 2ppn.18k.3 2ppq.183 2ppr.189 2pps.18h 2ppt.185 2ppu.18i 2ppv.181
  2ppw.184 2ppx.17u.2 2ppz.17y 2pq0.180 2pq1.186 2pq2.188 2pq3.18a 2q7f.2r 2q7g.36 2q7k.2p.q
  2qde.9md 2qds.jez 2qdt.i1j 2qdu.gjw 2qdv.9mv 2qdw.fik 2qdx.hlm 2qdy.r8j 2qdz.hm1 2qe0.fj8
  2qe1.k68 2qe2.mch 2qe3.k2h 2qe4.g99 2qe5.ivg 2qe6.g3x 2qe7.k34 2qe8.g7x 2qe9.oqq 2qea.n4v
  2qeb.rs9 2qec.hkg 2qed.gmx 2qee.lxw 2qef.jh1 2qeg.jmd 2qeh.feo 2qei.fex 2qej.si2 2qek.ijq
  2qel.ffx 2qem.gkz 2qen.jk7 2qeo.rxs 2qep.jf7 2qeq.o01 2qer.o6y 2qes.glk 2qet.lts 2qeu.kcp
  2qev.kco 2qew.n5f 2qex.gaa 2qey.gxi 2qez.sp9 2qfk.ivr 2qfl.gkv 2sc0.1c.a 464g.fgd 464h.fg8
  464i.fgh 464j.2tcy 464k.fog 464l.fqm 464m.fqz 464n.fsy 464o.fwa 464p.fx5 464q.fzb 464r.fyn
  464s.ae6 464t.2ud6 464u.g25 464v.g2c 464w.g2s 464x.g3b 464y.2u58 464z.aex 4650.g2v 4651.g3x
  4652.2u6j 4653.g47 4654.g4k 4655.fkc 4656.g4s 4657.g51 4658.3ly7 4659.g6t 465a.g77 465b.afz
  465c.g8r 465d.g92 465e.gaa 465f.gaf 465g.ahh 465h.gcn 465i.gcp 465j.gdg 465k.ge2 465l.ged.2
  465n.gev 465o.gg9 465p.ggh 465q.ggq 465r.ghf 465s.ghp.2.2 465t.ghr 465v.ghr 465w.2v58 465x.m7k
  465y.gju 465z.gkf 4660.2vdv 4661.gkr 4662.gkx 4663.gli 4664.gpq 4665.gmw 4666.gnc 4667.go8
  4668.gpu 4669.gs6 466a.gsw 466b.gur 466c.gv7 466d.gw4 466e.gw4 466f.gwp 466g.gx7 466h.gxf
  466i.gxu 466j.h7a 466k.gzq 466l.h7b 466m.h1t 466n.h2s 466o.g7b 466p.hke 466q.hce 466r.hdg
  466s.he5 466t.haj 466u.hf6 466v.hf5 466w.hik 466x.2x9g 466y.hki 466z.hkn 4670.hl2 4671.hlm
  4672.hlu 4673.hnm 4674.2xm0 4675.2xnu 4676.hrg 4677.hsr 4678.ht3 4679.hqw 467a.huu 467b.aum
  467c.av0 467d.hzc 467e.i0u 467f.i0u 467g.2y88 467h.i4j 467i.i54 467j.i5j 467k.i5v 467l.2yhk
  467m.i67 467n.i6e 467o.itv 467p.i76 467q.ayp 467r.i8w 467s.i9a 467t.ibk 467u.ia5 467v.2z1g.2.2
  467w.if7 467y.ige 467z.igb 4680.igs 4681.ijl.2 4683.b3j 4684.ikd 4685.ilk 4686.im5 4687.ind
  4688.b4y 4689.2zr7 468a.b5o 468b.ipc 468c.ipf 468d.ipi 468e.iq2 468f.3pg2 468g.iri 468h.3035
  468i.3035 468j.poh 468k.isi 468l.isi 468m.b7r 468n.335k 468o.3cgq 468p.iua 468q.iuj 468r.b8j
  468s.ivu 468t.ix9 468u.ixj 468v.iyh 468w.j29 468x.bay 468y.ba4 468z.j2s 4690.30t0 4691.j47
  4692.j7s 4693.j7w 4694.j7y 4695.j7w 4696.j96 4697.j9q 4698.jaq 4699.jac 469a.jan 469b.jby
  469c.jci 469d.jcm 469e.jdc 469f.jdn 469g.jfh 469h.jht 469i.jis 469j.jm8 469k.31n0 469l.jlp
  469m.jjw 469n.jmw 469o.jnn 469p.jqc 469q.31td 469r.js2 469s.jph 469t.jop 469u.bhq 469v.ju1
  469w.jum 469x.jvh 469y.juf 469z.bjg 46a0.k0f 46a1.k18 46a2.32mi 46a3.k4j 46a4.kc8 46a5.k7d
  46a6.bo9 46a7.k9d 46a8.bns 46a9.bms 46aa.g42 46ab.g45 46ac.kcg 46ad.k9o 46ae.pf1 46af.deh
  46ag.kd3 46ah.kd7 46ai.kdd 46aj.kf2 46ak.ker 46al.33cz 46am.bpl 46an.kje 46ao.kg5 46ap.klu
  46aq.kn9 46ar.33hp 46as.kni 46at.kkf 46au.kr8 46av.brx 46aw.ksi 46ax.kv7 46ay.kx6 46az.l2g
  46b0.33xf 46b1.l3v 46b2.bvc 46b3.l5t 46b4.34br 46b5.l78 46b6.bwu 46b7.l82 46b8.l9b 46b9.la2.2
  46bb.34p9 46bc.2yvf 46bd.34sa 46be.le6 46bf.354s 46bg.lhb 46bh.lhp 46bi.lev 46bj.ljq 46bk.lku
  46bl.lmf 46bm.lkx 46bn.lm1 46bo.lmg 46bp.lmt 46bq.357i 46br.lkk 46bs.lrj 46bt.lta 46bu.c37
  46bv.lvv 46bw.lvr 46bx.35jl 46by.lq1 46bz.m0e 46c0.35ni 46c1.35ou 46c2.m2u 46c3.m61 46c4.m5a
  46c5.m57 46c6.c5y 46c7.m6i 46c8.m7x 46c9.m7r 46ca.m99 46cb.2u5h 46cc.mdh 46cd.368z 46ce.mfw
  46cf.36i3 46cg.mjs 46ch.mk5 46ci.mkw 46cj.36yw 46ck.mm8 46cl.mmt 46cm.3779 46cn.37dg 46co.mt6
  46cp.mtn 46cq.cdo 46cr.mud 46cs.ce0 46ct.ce0 46cu.myv 46cv.mzg 46cw.n01 46cx.n0l 46cy.n2i
  46cz.cgr 46d0.n50 46d1.386u 46d2.n5q 46d3.389e 46d4.n74 46d5.2zrz 46d6.nbk 46d7.38v5 46d8.38vs
  46d9.38zo 46da.cn0 46db.cnc 46dc.nhw 46dd.394j 46de.394i 46df.395l 46dg.396b 46dh.nj2.2
  46dj.nj3 46dk.nka 46dl.cop 46dm.nm3 46dn.cp2 46do.cra 46dp.39r1 46dq.nri 46dr.nt8 46ds.nv0
  46dt.ctf 46du.3a5i 46dv.nyu 46dw.3a8q 46dx.3a9x 46dy.o0f 46dz.o2z 46e0.cvj 46e1.o5c 46e2.o5m
  46e3.o5r 46e4.3at8 46e5.3b1j 46e6.3b1j 46e7.oa6 46e8.d1e 46e9.3b8r 46ea.og6 46eb.og9 46ec.d2f
  46ed.3beo 46ee.onm 46ef.d5s 46eg.oo8 46eh.oo3 46ei.oow 46ej.3c06 46ek.orn 46el.d8h 46em.ouf
  46en.ow2 46eo.oxx 46ep.d9w 46eq.3ciw 46er.3cjr 46es.dax 46et.3cnt 46eu.p6i 46ev.3cqm 46ew.p79
  46ex.pa2 46ey.pad 46ez.3d22 46f0.3d43 46f1.pcw 46f2.3d7s 46f3.pdc 46f4.33a7 46f5.ded 46f6.pf6
  46f7.phf 46f8.dfv 46f9.pj2 46fa.hx1 46fb.3dlz 46fc.3dmd 46fd.33bn 46fe.33bw 46ff.poh 46fg.pok
  46fh.sda 46fi.dij 46fj.psh 46fk.psb 46fl.pst 46fm.gc3 46fn.ptd 46fo.ptf 46fp.ptp 46fq.puu
  46fr.3ebg 46fs.put 46ft.pwd 46fu.pyb 46fv.q0d 46fw.pwj 46fx.q0t 46fy.q1z 46fz.q53 46g0.pxv
  46g1.q16 46g2.q18 46g3.q1o 46g4.3eie 46g5.3eqz 46g6.3emt 46g7.dnv 46g8.q9d 46g9.q9f 46ga.qae
  46gb.3g0a 46gc.qck 46gd.3f3g 46ge.dp9 46gf.dpd 46gg.3f75 46gh.3ff6 46gi.dpn 46gj.qj4 46gk.qjg
  46gl.qjr 46gm.qjt 46gn.qll 46go.qko 46gp.qoe 46gq.qn6 46gr.qrd 46gs.qp4 46gt.qqz 46gu.qrq
  46gv.dsn 46gw.qu9 46gx.qv5 46gy.dtl 46gz.qxs 46h0.qxv 46h1.3giv 46h2.r13 46h3.r1a 46h4.dv9
  46h5.r22 46h6.aez 46h7.3gz2 46h8.3h46 46h9.dz2 46ha.dzb 46hb.rds 46hc.rfx 46hd.rka 46he.rpx
  46hf.3hrc 46hg.rsb 46hh.rsx 46hi.rvf 46hj.rxz 46hk.3i9b 46hl.2upw 46hm.s0b 46hn.rzw 46ho.s1c
  46hp.2uvy 46hq.s7o 46hr.sag 46hs.3jki 46ht.3jl9 46hu.sk4 46hv.smp 46hw.snl 46hx.3ju6 46hy.snv
  46hz.svs 46i0.t07.2 46i2.sxo 46i3.t89 46i4.t91 46i5.3ksa 46i6.tjf 46i7.ej9 46i8.tkn 46i9.3l2v
  46ia.eli 46ib.ts3 46ic.iia 46id.tur 46ie.3ltx 46if.3lzu 46ig.epa 46ih.epi 46ii.u00 46ij.3mdm
  46ik.er6 46il.3mhi 46im.u17 46in.u17 46io.u21 46ip.3mpi 46iq.u76 46ir.eur 46is.u95 46it.ucn
  46iu.ude 46iv.uf2 46iw.ez2 46ix.3nsg 46iy.umq 46iz.uv4 46j0.v0d 46j1.f66 46j2.f71 46j3.v3b
  46j4.3owe 46j5.f7c 46j6.3oxx 46j7.3p5a 46j8.3p8x 46j9.vcr 46ja.f9y 46jb.veh 46jc.vem 46jd.vet
  46je.vf3 46jf.vfa 46jg.vgb 46jh.3pxc"

/-- Code points that become several others. The code point is left out where it follows the one
before it. -/
def several : String :=
  "4o.w,lk 4v.w,lg 50.w,ld 54.w,mf 58.1d,6dg,1g 1d,6dg,1e 1f,6dg,1g 8g.2x,lj 8i.2x,2y 2x,2y
  8v.30,53 30,53 95.jg,32 ck.2s,am 2s,am 2s,am 30,2y 30,2y 30,2y 32,2y 32,2y 32,2y dt.2s,3e
  2s,3e 2s,3e k8.w,li w,lj w,lm w,mg w,lf w,ln n8.lk,ld oq.w,qh p0.w,ld w,lk,ld 13b.12d,136
  19x.17r,19w 18o,19w 1c7,19w 18q,19w 1ug.1sl,1to 1sm,1to 1sn,1to 1ss,1to 1sx,1to 1sy,1to
  1t7,1to 1tb,1to 1y4.1wh,1x8 1wi,1x8 1y7.1wv,1x8 20j.20i,20s 20m.20o,20s 21l.1zq,20s 1zr,20s
  1zw,20s 21q.20b,20s 28s.275,27w 276,27w 2sz.2tp,2sy 2wj.2x9,2wi 2xo.2wb,2vt 2wb,2w1
  30j.30i,33r 30t.30s,33r 30y.30x,33r 313.312,33r 318.317,33r 31l.30g,33p 31v.31t,31u
  31x.31t,31w 33m,328 33m,31t,328 33n,328 33n,31t,328 329.31t,328 32r.32q,33r 331.330,33r
  336.335,33r 33b.33a,33r 33g.33f,33r 33t.32o,33p 61m.2p,ji 680.64g,qh 64h,qh 64i,qh 64j,qh
  64k,qh 64l,qh 64m,qh 64n,qh 64g,qh 64h,qh 64i,qh 64j,qh 64k,qh 64l,qh 64m,qh 64n,qh 65c,qh
  65d,qh 65e,qh 65f,qh 65g,qh 65h,qh 65i,qh 65j,qh 65c,qh 65d,qh 65e,qh 65f,qh 65g,qh 65h,qh
  65i,qh 65j,qh 674,qh 675,qh 676,qh 677,qh 678,qh 679,qh 67a,qh 67b,qh 674,qh 675,qh 676,qh
  677,qh 678,qh 679,qh 67a,qh 67b,qh 69e.67k,qh q9,qh q4,qh 69j.69i,qh 69o.q9,qh w,lv 69r.w,lv
  w,n6 w,lk,n6 67o,qh qf,qh q6,qh 69z.69y,qh 6a4.qf,qh w,lv,lc w,lv,ld w,lv,n6 6al.w,lw,lc
  w,lw,ld w,lw,n6 6b1.w,lk,lc w,lk,ld 6b6.67w,qh qx,qh r2,qh 6bb.6ba,qh 6bg.qx,qh w,ld w,lw
  6c7.w,mr 6cz.6cy,6cy 6cy,6cy,6cy 6d2.6d1,6d1 6d1,6d1,6d1 6d8.x,x 6da.w,lh 6dj.1r,1r 1r,x x,1r
  6dz.6cy,6cy,6cy,6cy 6g8.36,37 6io.2p,1b,2r 2p,1b,37 6ir.4w,2r 6it.2r,1b,33 2r,1b,39 6ix.4w,2u
  6ja.32,33 6jk.37,31 38,2t,30 38,31 6kb.2u,2p,3c 6kw.1d,6dg,1j 1d,6dg,1l 1d,6dg,1d,1c 1d,6dg,1f
  1e,6dg,1f 1d,6dg,1h 1e,6dg,1h 1f,6dg,1h 1g,6dg,1h 1d,6dg,1i 1h,6dg,1i 1d,6dg,1k 1f,6dg,1k
  1h,6dg,1k 1j,6dg,1k 1d,6dg 6ld.2x,2x 2x,2x,2x 2x,3a 6lh.3a,2x 3a,2x,2x 3a,2x,2x,2x 2x,3c
  6lm.3c,2x 3c,2x,2x 6lt.2x,2x 2x,2x,2x 2x,3a 6lx.3a,2x 3a,2x,2x 3a,2x,2x,2x 2x,3c 6m2.3c,2x
  3c,2x,2x 6mh.1c,6dg,1f 6r0.6qz,6qz 6qz,6qz,6qz 6r3.6r2,6r2 6r2,6r2,6r2 76x.1d,1c 1d,1d 1d,1e
  1d,1f 1d,1g 1d,1h 1d,1i 1d,1j 1d,1k 1d,1l 1e,1c 14,1d,15 14,1e,15 14,1f,15 14,1g,15 14,1h,15
  14,1i,15 14,1j,15 14,1k,15 14,1l,15 14,1d,1c,15 14,1d,1d,15 14,1d,1e,15 14,1d,1f,15
  14,1d,1g,15 14,1d,1h,15 14,1d,1i,15 14,1d,1j,15 14,1d,1k,15 14,1d,1l,15 14,1e,1c,15
  78c.14,2p,15 14,2q,15 14,2r,15 14,2s,15 14,2t,15 14,2u,15 14,2v,15 14,2w,15 14,2x,15 14,2y,15
  14,2z,15 14,30,15 14,31,15 14,32,15 14,33,15 14,34,15 14,35,15 14,36,15 14,37,15 14,38,15
  14,39,15 14,3a,15 14,3b,15 14,3c,15 14,3d,15 14,3e,15 8b0.6qz,6qz,6qz,6qz 8dw.1m,1m,1p 1p,1p
  1p,1p,1p 8gs.8gt,mw 9ln.w,9ll w,9lm 9lr.9l4,9l6 9of.9mb,9mw 9vk.14,3cw,15 14,3cy,15 14,3cz,15
  14,3d1,15 14,3d2,15 14,3d3,15 14,3d5,15 14,3d7,15 14,3d8,15 14,3da,15 14,3db,15 14,3dc,15
  14,3dd,15 14,3de,15 14,xz4,15 14,yvs,15 14,zc4,15 14,108s,15 14,10p4,15 14,115g,15 14,1224,15
  14,12ys,15 14,13f4,15 14,14bs,15 14,14s4,15 14,158g,15 14,15os,15 14,1654,15 14,13p8,15
  14,1350,13ic,15 14,1350,16f8,15 9wg.14,feo,15 14,fik,15 14,fex,15 14,h5n,15 14,fis,15
  14,g31,15 14,fer,15 14,g2z,15 14,fh9,15 14,gg1,15 14,kco,15 14,m7f,15 14,ldg,15 14,kdk,15
  14,ssx,15 14,h7j,15 14,k4l,15 14,kkq,15 14,kcp,15 14,ny6,15 14,glp,15 14,mm1,15 14,rs1,15
  14,nz1,15 14,gc4,15 14,fkz,15 14,gos,15 14,i1y,15 14,nhf,15 14,flt,15 14,rt3,15 14,ggk,15
  14,nzh,15 14,fm9,15 14,pnu,15 14,po3,15 9xs.34,38,2t 1e,1d 1e,1e 1e,1f 1e,1g 1e,1h 1e,1i 1e,1j
  1e,1k 1e,1l 1f,1c 1f,1d 1f,1e 1f,1f 1f,1g 1f,1h 9z0.14c8,y5c 13p8,13dk a0h.1f,1i 1f,1j 1f,1k
  1f,1l 1g,1c 1g,1d 1g,1e 1g,1f 1g,1g 1g,1h 1g,1i 1g,1j 1g,1k 1g,1l 1h,1c 1d,kco 1e,kco 1f,kco
  1g,kco 1h,kco 1i,kco 1j,kco 1k,kco 1l,kco 1d,1c,kco 1d,1d,kco 1d,1e,kco 2w,2v 2t,36,2v 2t,3a
  30,38,2s a2n.fl0,gp8 9lu,9n5,9oc,9mw 9lu,9nv,9n9,9lt 9lu,9o3,9ne,9lu 9lu,9oc,9nv
  9lw,9mz,9o3,9m8 9lw,9o3,9mp 9ly,9m1,9o3 9m0,9mh,9m7,9oc,9mx 9m0,9oc,9m3,9oc 9m2,9o3,9mh
  9m2,9oc,9nk 9m3,9lw,9nu 9m3,9nt,9mr,9mw 9m3,9nx,9nu,9oc 9m4,9nx,9o3 9m4,9o3,9ni 9m6,9m4
  9m6,9mz,9oc 9m5,9np,9nu,9oc 9m6,9nv,9mo,9oc 9m5,9nx 9m5,9nx,9m8,9nt,9nk
  9m5,9nx,9nl,9oc,9mw,9nv 9m5,9nx,9nz,9mr,9mw 9m8,9nt,9nk 9m8,9nt,9nk,9mw,9o3
  9m7,9nv,9mk,9lw,9nx 9m7,9nx,9oc,9n1 9m9,9oc,9mh 9mb,9nv,9my 9mb,9oc,9nh 9md,9lw,9m7,9nv
  9md,9o3,9mp,9oc,9nk 9mf,9nu,9o3,9m8 9mj,9o3,9mp 9mj,9o3,9mw 9mo,9oc,9mh 9mv,9mf 9mx,9nv
  9mw,9o3 9my,9n2 9n2,9mr,9mw 9n3,9lw,9ms 9n5,9oc,9mj,9o3,9mw 9n5,9oc,9ms 9n4,9oc,9nw,9nv
  9n8,9lu,9mh,9mw,9nv 9n8,9m7,9nv 9n8,9mb 9n7,9nv 9n9,9lt,9nt,9mr,9mx 9n9,9lv,9oc,9mw
  9na,9mr,9mf,9lz,9nv 9n9,9nt,9o3 9nc,9m7,9mn,9oc,9nv 9ne,9ml 9ne,9mz,9n6 9nc,9nv,9ms
  9ne,9o3,9mh 9ne,9oc,9mg 9nd,9oc,9mn 9nh,9lw,9o3,9mw 9ng,9nv,9mw 9nf,9o3 9nh,9o3,9mx
  9nf,9oc,9nv 9nf,9oc,9o3 9ni,9lw,9m7,9nx 9ni,9lw,9nv 9ni,9mr,9n3 9ni,9nv,9m7
  9ni,9o3,9mf,9nr,9o3 9nj,9m7,9nx,9o3 9nj,9nu 9nj,9nu,9n4,9oc,9nv 9nl,9m4 9nl,9m4,9mw,9o3
  9nl,9oc,9mw,9nv 9no,9oc,9mx 9no,9oc,9nv 9nq,9lu,9o3 9nu,9mr,9mw,9nv 9nu,9nt 9nv,9n8,9oc
  9nv,9oc,9na,9nv 9nw,9nk 9nw,9o3,9mw,9ma,9o3 9nz,9mr,9mw 1c,m9l 1d,m9l 1e,m9l 1f,m9l 1g,m9l
  1h,m9l 1i,m9l 1j,m9l 1k,m9l 1l,m9l 1d,1c,m9l 1d,1d,m9l 1d,1e,m9l 1d,1f,m9l 1d,1g,m9l 1d,1h,m9l
  1d,1i,m9l 1d,1j,m9l 1d,1k,m9l 1d,1l,m9l 1e,1c,m9l 1e,1d,m9l 1e,1e,m9l 1e,1f,m9l 1e,1g,m9l
  2w,34,2p 2s,2p 2p,39 2q,2p,36 33,3a 34,2r 2s,31 2s,31,1e 2s,31,1f 2x,39 inn,jdc k6l,gp8
  hlz,l7n k5q,lh7 kkq,irz,fmi,ny6 34,2p 32,2p qk,2p 31,2p 2z,2p 2z,2q 31,2q 2v,2q 2r,2p,30
  2z,2r,2p,30 34,2u 32,2u qk,2u qk,2v 31,2v 2z,2v 2w,3e 2z,2w,3e 31,2w,3e 2v,2w,3e 38,2w,3e
  qk,30 31,30 2s,30 2z,30 2u,31 32,31 qk,31 31,31 2r,31 2z,31 31,31,1e 2r,31,1e 31,1e 2z,31,1e
  31,31,1f 2r,31,1f 31,1f 2z,31,1f 31,6qd,37 31,6qd,37,1e 34,2p 2z,34,2p 31,34,2p 2v,34,2p
  36,2p,2s 36,2p,2s,6qd,37 36,2p,2s,6qd,37,1e 34,37 32,37 qk,37 31,37 34,3a 32,3a qk,3a 31,3a
  2z,3a 31,3a 34,3b 32,3b qk,3b 31,3b 2z,3b 31,3b 2z,qx 31,qx a83.2q,35 2r,2r 2r,2s 2r,6qd,2z,2v
  a88.2s,2q 2v,3d 2w,2p 2w,34 2x,32 2z,2z 2z,31 2z,38 30,31 30,32 30,33,2v 30,3c 31,2q 31,2x,30
  31,33,30 34,2w a8p.34,34,31 34,36 37,36 37,3a 3b,2q 3a,6qd,31 2p,6qd,31 1d,k4l 1e,k4l 1f,k4l
  1g,k4l 1h,k4l 1i,k4l 1j,k4l 1k,k4l 1l,k4l 1d,1c,k4l 1d,1d,k4l 1d,1e,k4l 1d,1f,k4l 1d,1g,k4l
  1d,1h,k4l 1d,1i,k4l 1d,1j,k4l 1d,1k,k4l 1d,1l,k4l 1e,1c,k4l 1e,1d,k4l 1e,1e,k4l 1e,1f,k4l
  1e,1g,k4l 1e,1h,k4l 1e,1i,k4l 1e,1j,k4l 1e,1k,k4l 1e,1l,k4l 1f,1c,k4l 1f,1d,k4l 2v,2p,30
  1dkw.2u,2u 2u,2x 2u,30 2u,2u,2x 2u,2u,30 37,38 37,38 1dlf.12s,12u 12s,12d 12s,12j 132,12u
  12s,12l 1dlp.15l,14k 1dlr.16a,14n 1dm2.161,14x 161,14y 161,14s,14x 161,14s,14y 15c,14n 15c,14o
  15c,14s 15d,14s 15e,14s 15f,14s 15g,14s 15h,14s 15i,14s 1dmg.15k,14s 15l,14s 15m,14s 15n,14s
  15o,14s 1dmm.15q,14s 1dmo.15s,14s 15t,14s 1dmr.15v,14s 15w,14s 1dmu.15y,14s 15z,14s 160,14s
  161,14s 162,14s 15h,14p 15d,14v 15n,14v 15w,14v 15c,15o 1dr1.1c7,19w 1dre.17q,17r 17q,17r
  17q,1cl 17q,1cl 17q,18o 17q,18o 17q,1c7 17q,1c7 17q,1c6 17q,1c6 17q,1c8 17q,1c8 17q,1cg
  17q,1cg 17q,1cg 17q,18p 17q,18p 17q,18p 1ds0.17q,17w 17q,17x 17q,18l 17q,18p 17q,18q 17s,17w
  17s,17x 17s,17y 17s,18l 17s,18p 17s,18q 17u,17w 17u,17x 17u,17y 17u,18l 17u,18p 17u,18q
  17v,17w 17v,18l 17v,18p 17v,18q 17w,17x 17w,18l 17x,17w 17x,18l 17y,17w 17y,17x 17y,18l
  183,17w 183,17x 183,17y 183,18l 185,17x 185,18l 186,17w 186,17x 186,17y 186,18l 187,17x
  187,18l 188,18l 189,17w 189,18l 18a,17w 18a,18l 18h,17w 18h,17x 18h,17y 18h,18l 18h,18p
  18h,18q 18i,17x 18i,18l 18i,18p 18i,18q 18j,17r 18j,17w 18j,17x 18j,17y 18j,18k 18j,18l
  18j,18p 18j,18q 18k,17w 18k,17x 18k,17y 18k,18l 18k,18p 18k,18q 18l,17w 18l,17x 18l,17y
  18l,18l 18l,18p 18l,18q 18m,17w 18m,17x 18m,17y 18m,18l 18m,18p 18m,18q 18n,17w 18n,18l
  18n,18p 18n,18q 18q,17w 18q,17x 18q,17y 18q,18l 18q,18p 18q,18q 180,19s 181,19s 18p,19s
  w,18s,18x w,18t,18x w,18u,18x w,18v,18x w,18w,18x w,18x,19s 17q,181 17q,182 17q,18l 17q,18m
  17q,18p 17q,18q 17s,181 17s,182 17s,18l 17s,18m 17s,18p 17s,18q 17u,181 17u,182 17u,18l
  17u,18m 17u,18p 17u,18q 17v,181 17v,182 17v,18l 17v,18m 17v,18p 17v,18q 18h,18p 18h,18q
  18i,18p 18i,18q 18j,17r 18j,18k 18j,18l 18j,18p 18j,18q 18k,18l 18k,18p 18k,18q 18l,17r
  18l,18l 18m,181 18m,182 18m,18l 18m,18m 18m,18p 18m,18q 18p,19s 18q,181 18q,182 18q,18l
  18q,18m 18q,18p 18q,18q 17q,17w 17q,17x 17q,17y 17q,18l 17q,18n 17s,17w 17s,17x 17s,17y
  17s,18l 17s,18n 17u,17w 17u,17x 17u,17y 17u,18l 17u,18n 17v,18l 17w,17x 17w,18l 17x,17w
  17x,18l 17y,17w 17y,18l 183,17w 183,17x 183,17y 183,18l 185,17x 185,17y 185,18l 186,17w
  186,17x 186,17y 186,18l 187,17x 188,18l 189,17w 189,18l 18a,17w 18a,18l 18h,17w 18h,17x
  18h,17y 18h,18l 18i,17x 18i,18l 18j,17w 18j,17x 18j,17y 18j,18k 18j,18l 18k,17w 18k,17x
  18k,17y 18k,18l 18k,18n 18l,17w 18l,17x 18l,17y 18l,18l 18m,17w 18m,17x 18m,17y 18m,18l
  18m,18n 18n,17w 18n,18l 18n,19s 18q,17w 18q,17x 18q,17y 18q,18l 18q,18n 17q,18l 17q,18n
  17s,18l 17s,18n 17u,18l 17u,18n 17v,18l 17v,18n 183,18l 183,18n 184,18l 184,18n 18j,18k
  18j,18l 18k,18l 18m,18l 18m,18n 18q,18l 18q,18n 18g,18u,18x 18g,18v,18x 18g,18w,18x 187,18p
  187,18q 189,18p 189,18q 18a,18p 18a,18q 183,18p 183,18q 184,18p 184,18q 17x,18p 17x,18q
  17w,18p 17w,18q 17y,18p 17y,18q 185,18p 185,18q 186,18p 186,18q 184,17w 184,17x 184,17y
  184,18l 184,181 183,181 185,181 186,181 187,18p 187,18q 189,18p 189,18q 18a,18p 18a,18q
  183,18p 183,18q 184,18p 184,18q 17x,18p 17x,18q 17w,18p 17w,18q 17y,18p 17y,18q 185,18p
  185,18q 186,18p 186,18q 184,17w 184,17x 184,17y 184,18l 184,181 183,181 185,181 186,181
  184,17w 184,17x 184,17y 184,18l 183,18n 184,18n 187,18l 183,17w 183,17x 183,17y 184,17w
  184,17x 184,17y 187,18l 188,18l 17r,18r 17r,18r 1e1c.17u,17w,18l 17u,17x,17w 17u,17x,17w
  17u,17x,18l 17u,17y,18l 17u,18l,17w 17u,18l,17x 17u,18l,17y 17w,18l,17x 17w,18l,17x
  17x,18l,18q 17x,18l,18p 183,17x,17w 183,17w,17x 183,17w,18p 183,18l,17x 183,18l,17x
  183,18l,17w 183,18l,18l 183,18l,18l 185,17x,17x 185,17x,17x 185,18l,18l 184,17x,18l
  184,17x,18l 184,17w,18q 184,18l,17y 184,18l,17y 184,18l,18l 184,18l,18l 186,17x,18p
  186,17y,18l 186,17y,18l 187,18l,17x 187,18l,17x 187,18l,18l 187,18l,18q 189,17w,18l
  189,18l,18l 189,18l,18l 189,18l,18p 18a,18l,18l 18a,18l,18q 18a,18l,18p 18h,17y,18l
  18h,17y,18l 18i,18l,17x 18i,18l,18l 18k,17x,18l 18k,17x,18q 18k,17x,18p 18k,17w,17w
  18k,17w,17w 18k,17y,18l 18k,17y,18l 18k,18l,17x 18k,18l,17x 18l,17x,17w 18l,17x,18l
  18l,17x,18q 18l,17w,17x 18l,17w,18l 18l,17y,17w 18l,17y,18l 1e36.18l,17w,17y 18n,18l,17w
  18n,18l,18l 18m,17x,18l 18m,17x,18p 18m,17w,18l 18m,17w,18l 18m,17w,18p 18m,18l,18q
  18m,18l,18p 18q,18l,18l 18q,18l,18l 17s,17y,18q 17u,17w,18q 17u,17w,18p 17u,17y,18q
  17u,17y,18p 17u,18l,18q 17u,18l,18p 17w,18l,18q 17w,17x,18p 17w,18l,18p 183,17y,18p
  185,17x,18q 184,17x,18q 186,17x,18q 18k,17w,18q 18k,18l,18q 18q,17x,18q 18q,17w,18q
  18q,18l,18q 18l,18l,18q 18i,18l,18q 18m,17x,18q 18i,18l,17x 18k,17x,18l 189,18l,18q
  18j,18l,18q 18m,17w,17x 18l,17y,18q 18k,17w,18l 18j,18l,18l 18k,17w,18l 18m,17w,17x
  17w,17x,18q 17x,17w,18q 18l,17w,18q 18h,18l,18q 17s,17x,18q 18j,18l,18l 189,17w,18l
  185,18l,18l 183,17y,18q 18m,17w,18q 1e5s.185,18k,1ci 18i,18k,1ci 17r,18k,18k,18n
  17r,18j,17s,181 18l,17x,18l,17z 185,18k,189,18l 181,183,18o,18k 189,18k,18q,18n
  18o,183,18k,18l 185,18k,18p 185,18k,18p,w,17r,18k,18k,18n,w,189,18k,18q,18n,w,18o,183,18k,18l
  17w,18k,w,17w,18k,17r,18k,18n 181,1cc,17r,18k 1e89.w,lh w,lh w,lh w,lh 1e9c.w,18r 18g,18r
  w,18s 1e9g.w,18t 1e9i.w,18u 18g,18u w,18v 18g,18v w,18w 18g,18w w,18x 18g,18x w,18y 18g,18y
  1ed1.18k,17m 18k,17m 18k,17n 18k,17n 18k,17p 18k,17p 18k,17r 18k,17r 1ejn.w,lg 2jxa.2jx3,2jxh
  2jx4,2jxh 2jx4,2jxh,2jxq 2jx4,2jxh,2jxr 2jx4,2jxh,2jxs 2jx4,2jxh,2jxt 2jx4,2jxh,2jxu
  2jzv.2jzt,2jxh 2jzu,2jxh 2jzt,2jxh,2jxq 2jzu,2jxh,2jxq 2jzt,2jxh,2jxr 2jzu,2jxh,2jxr
  2q69.1c,18 1d,18 1e,18 1f,18 1g,18 1h,18 1i,18 1j,18 1k,18 1l,18 2q6o.14,2p,15 14,2q,15
  14,2r,15 14,2s,15 14,2t,15 14,2u,15 14,2v,15 14,2w,15 14,2x,15 14,2y,15 14,2z,15 14,30,15
  14,31,15 14,32,15 14,33,15 14,34,15 14,35,15 14,36,15 14,37,15 14,38,15 14,39,15 14,3a,15
  14,3b,15 14,3c,15 14,3d,15 14,3e,15 9hw,37,9hx 2q7h.2r,2s 3b,3e 2q8a.2w,3a 31,3a 37,2s 37,37
  34,34,3a 3b,2r 2q96.31,2r 31,2s 31,36 2qa8.2s,2y 2qdc.9kr,9jf 9mb,9mb 2qf4.9hw,kdo,9hx
  9hw,fex,9hx 9hw,fik,9hx 9hw,i2x,9hx 9hw,m9l,9hx 9hw,jf7,9hx 9hw,nh3,9hx 9hw,gd9,9hx
  9hw,k0n,9hx"

end JsonSchema.Idna.MappingData
